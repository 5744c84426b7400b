import TableSearch.Proofs.Control.ColumnName

/-! # The token of a name turned around

A click on the head of a column orders by the token made from its name, and a second click turns that
token around.  If the name begins with a sign, the token does too, and turning it around takes a part
of the name for the sign of a direction.

`TableSearch.ColumnName.names_both_ways_iff`: the token of a name names it in ascending order, and
turned around in descending order, exactly if the name is recovered from the token and does not begin
with a sign.  Two or more plus signs and nothing else are the one exception.
-/

namespace TableSearch

namespace ColumnName

open CharCase Text

variable {name rest typed passed : Text} {c d sign : Char} {count : Nat}

/-! ## Tokens that begin with a sign -/

/-- A token begins with a sign exactly if its name does. -/
theorem tokenFrom_eq_sign_cons_iff (low : sign.toNat ≤ 64) (apart : d ≠ ' ') :
    tokenFrom passed (d :: rest) = sign :: typed ↔
      d = sign ∧ tokenFrom (d :: passed) rest = typed := by
  rw [tokenFrom_cons apart]
  constructor
  · intro token
    obtain ⟨c, form, same⟩ := exists_lowerAt_eq_cons passed.reverse d rest
    have member : c ∈ lowerForms d := mem_lowerForms_of_mem_lowerAt (same ▸ List.mem_cons_self)
    obtain rfl : c = sign := by
      rw [same] at token
      exact (List.cons.inj token).1
    obtain rfl := eq_of_mem_lowerForms low member
    rw [lowerAt_of_low low] at token
    exact ⟨rfl, (List.cons.inj token).2⟩
  · rintro ⟨rfl, rfl⟩
    rw [lowerAt_of_low low]
    rfl

/-- A token consists of one sign exactly if its name does but for spaces. -/
theorem tokenFrom_eq_replicate_iff (low : sign.toNat ≤ 64) :
    tokenFrom passed name = List.replicate count sign ↔
      name.filter (· ≠ ' ') = List.replicate count sign := by
  induction name generalizing passed count with
  | nil => exact Iff.rfl
  | cons d rest ih =>
      by_cases space : d = ' '
      · rw [space, tokenFrom_space, ih, List.filter_cons_of_neg (by decide)]
      · rw [List.filter_cons, if_pos (decide_eq_true space)]
        cases count with
        | zero =>
            obtain ⟨c, more, token, -⟩ := exists_tokenFrom_cons passed rest space
            rw [token]
            exact iff_of_false (List.cons_ne_nil _ _) (List.cons_ne_nil _ _)
        | succ count =>
            rw [List.replicate_succ, tokenFrom_eq_sign_cons_iff low space, ih, List.cons.injEq]

/-- A token begins with a sign exactly if the name does, behind spaces. -/
theorem head?_tokenFrom_eq_sign_iff (low : sign.toNat ≤ 64) :
    (tokenFrom passed name).head? = some sign ↔ name.find? (· ≠ ' ') = some sign := by
  induction name generalizing passed with
  | nil => exact Iff.rfl
  | cons d rest ih =>
      by_cases space : d = ' '
      · rw [space, tokenFrom_space, ih]
        rfl
      · have first : (d :: rest).find? (· ≠ ' ') = some d :=
          List.find?_cons_of_pos (decide_eq_true space)
        rw [first, Option.some.injEq, List.head?_eq_some_iff]
        simp only [tokenFrom_eq_sign_cons_iff low space, exists_and_left, exists_eq', and_true]

/-- If a name starts with its own token less some signs in front, the token has nothing but signs. -/
theorem eq_replicate_of_startsWith (low : sign.toNat ≤ 64) (solid : CharClass.isBlank sign = false)
    (token : tokenFrom passed name = List.replicate (count + 1) sign ++ typed)
    (starts : startsWith typed name = true) : typed = List.replicate typed.length sign := by
  induction name generalizing passed typed count with
  | nil => cases token
  | cons d rest ih =>
      cases typed with
      | nil => rfl
      | cons c more =>
          by_cases space : d = ' '
          · rw [space, tokenFrom_space] at token
            have apart : c ≠ ' ' := by
              rintro rfl
              have absent : ' ' ∉ tokenFrom (' ' :: passed) rest := space_not_mem_tokenFrom
              rw [token] at absent
              exact absent (List.mem_append_right _ List.mem_cons_self)
            rw [space, startsWith_cons_space apart] at starts
            exact ih token starts.2
          · rw [List.replicate_succ, List.cons_append,
              tokenFrom_eq_sign_cons_iff low space] at token
            obtain ⟨rfl, token⟩ := token
            rw [startsWith_cons_cons, sameLetter_iff_of_low low] at starts
            rcases starts with ⟨rfl, starts⟩ | ⟨-, blank, -⟩
            · rw [List.append_cons, ← List.replicate_succ'] at token
              rw [List.length_cons, List.replicate_succ, ← ih token starts]
            · rw [solid] at blank
              cases blank

/-- A name starts with less of what it starts with. -/
theorem startsWith_of_append {more : Text} (starts : startsWith (typed ++ more) name = true) :
    startsWith typed name = true := by
  induction name generalizing typed with
  | nil =>
      cases typed with
      | nil => rfl
      | cons c typed => cases starts
  | cons d rest ih =>
      cases typed with
      | nil => rfl
      | cons c typed =>
          rw [List.cons_append, startsWith_cons_cons] at starts
          rw [startsWith_cons_cons]
          rcases starts with ⟨same, later⟩ | ⟨other, blank, solid, later⟩
          · exact .inl ⟨same, ih later⟩
          · exact .inr ⟨other, blank, solid, ih later⟩

/-- A name has at least as many characters other than spaces as what it starts with. -/
theorem length_le_of_startsWith (spaceless : ' ' ∉ typed) (starts : startsWith typed name = true) :
    typed.length ≤ (name.filter (· ≠ ' ')).length := by
  induction name generalizing typed with
  | nil =>
      cases typed with
      | nil => exact Nat.le_refl _
      | cons c typed => cases starts
  | cons d rest ih =>
      cases typed with
      | nil => exact Nat.zero_le _
      | cons c typed =>
          rw [startsWith_cons_cons] at starts
          rcases starts with ⟨same, later⟩ | ⟨-, -, -, later⟩
          · have apart : d ≠ ' ' := by
              rintro rfl
              rw [sameLetter_iff_of_low (by decide)] at same
              exact spaceless (same ▸ List.mem_cons_self)
            rw [List.filter_cons, if_pos (decide_eq_true apart), List.length_cons, List.length_cons]
            exact Nat.succ_le_succ (ih (fun member => spaceless (List.mem_cons_of_mem _ member)) later)
          · exact (ih spaceless later).trans ((List.sublist_cons_self d rest).filter _).length_le

/-- Lower-casing never shortens a name. -/
theorem length_le_tokenFrom : (name.filter (· ≠ ' ')).length ≤ (tokenFrom passed name).length := by
  induction name generalizing passed with
  | nil => exact Nat.le_refl _
  | cons d rest ih =>
      by_cases space : d = ' '
      · rw [space, tokenFrom_space]
        exact ih
      · obtain ⟨c, form, same⟩ := exists_lowerAt_eq_cons passed.reverse d rest
        rw [List.filter_cons, if_pos (decide_eq_true space), tokenFrom_cons space, same,
          List.cons_append, List.length_cons, List.length_cons, List.length_append]
        exact Nat.succ_le_succ (ih.trans (Nat.le_add_left _ _))

/-! ## Both directions -/

/-- A name of one sign only, but for spaces, is recovered from its token. -/
theorem isRecovered_of_replicate (low : sign.toNat ≤ 64) (solid : CharClass.isBlank sign = false)
    (signs : name.filter (· ≠ ' ') = List.replicate count sign) : IsRecovered name := by
  have only : ∀ c ∈ name, c ≠ ' ' → c = sign := by
    intro c member apart
    have inside : c ∈ name.filter (· ≠ ' ') := List.mem_filter.mpr ⟨member, decide_eq_true apart⟩
    rw [signs] at inside
    exact List.eq_of_mem_replicate inside
  constructor
  · intro dotted
    exact absurd low (only _ dotted (by decide) ▸ by decide)
  · rintro before after rfl
    exact absurd low (only 'Σ' (by simp) (by decide) ▸ by decide)
  · refine (List.pairwise_of_forall_mem_list ?_).isChain
    intro _ _ d member _ blank
    by_contra apart
    rw [only d member apart, solid] at blank
    cases blank

/-- The token of a name names it in ascending order exactly if the name starts with it. -/
theorem direction?_sortToken_iff (filled : ∃ c ∈ name, c ≠ ' ') :
    direction? (sortToken name) name = some .ascending ↔ IsRecovered name := by
  rw [direction?_eq_ascending_iff, and_iff_right (sortToken_ne_nil filled), startsWith_sortToken_iff]
  refine or_iff_left_of_imp ?_
  rintro ⟨rest, token, -, starts⟩
  have shifted : tokenFrom [] name = List.replicate (0 + 1) '+' ++ rest := token
  rw [eq_replicate_of_startsWith (by decide) (by decide) shifted starts,
    List.replicate_append_replicate] at shifted
  exact isRecovered_of_replicate (by decide) (by decide)
    ((tokenFrom_eq_replicate_iff (by decide)).mp shifted)

/-- A dash begins no name that begins with another sign. -/
theorem not_startsWith_dash (first : name.find? (· ≠ ' ') = some '+') :
    startsWith ('-' :: typed) name = false := by
  apply startsWith_sign_eq_false (by decide) (by decide)
  have same : name.find? (!CharClass.isBlank ·) = some '+' := by
    obtain ⟨-, before, after, rfl, spaces⟩ := List.find?_eq_some_iff_append.mp first
    refine List.find?_eq_some_iff_append.mpr ⟨by decide, before, after, rfl, ?_⟩
    intro c member
    have space : c = ' ' := by simpa using spaces c member
    rw [space]
    rfl
  rw [same]
  decide

/-- What is left of a token without its dash names nothing in descending order, even if all of it are
dashes. -/
theorem not_descending_of_undashed (recovered : IsRecovered name)
    (token : sortToken name = '-' :: rest) :
    direction? rest name ≠ some .descending := by
  rw [ne_eq, direction?_eq_descending_iff]
  rintro ⟨unnamed, rest, rfl, -, starts⟩
  have shifted : tokenFrom [] name = List.replicate (1 + 1) '-' ++ rest := token
  have dashes := eq_replicate_of_startsWith (by decide) (by decide) shifted starts
  have longer : sortToken name = '-' :: rest ++ ['-'] := by
    rw [token, dashes, List.cons_append, ← List.replicate_succ', ← List.replicate_succ]
  have whole := startsWith_sortToken_iff.mpr recovered
  rw [longer] at whole
  rw [startsWith_of_append whole] at unnamed
  cases unnamed

/-- A token with a dash in the place of its plus sign names in descending order only what consists of
plus signs. -/
theorem descending_of_plus_iff (recovered : IsRecovered name) (token : sortToken name = '+' :: rest) :
    direction? ('-' :: rest) name = some .descending ↔
      ∃ count, name.filter (· ≠ ' ') = List.replicate (count + 2) '+' := by
  have first : (tokenFrom [] name).head? = some '+' := by
    rw [← sortToken_eq_tokenFrom, token, List.head?_cons]
  rw [head?_tokenFrom_eq_sign_iff (by decide)] at first
  rw [direction?_eq_descending_iff, and_iff_right (not_startsWith_dash first)]
  constructor
  · rintro ⟨rest, same, nonempty, starts⟩
    obtain rfl := (List.cons.inj same).2
    have shifted : tokenFrom [] name = List.replicate (0 + 1) '+' ++ rest := token
    have signs := eq_replicate_of_startsWith (by decide) (by decide) shifted starts
    have count : 0 + 1 + rest.length = rest.length - 1 + 2 := by
      have := List.length_pos_of_ne_nil nonempty
      omega
    rw [signs, List.replicate_append_replicate, count] at shifted
    exact ⟨_, (tokenFrom_eq_replicate_iff (by decide)).mp shifted⟩
  · rintro ⟨count, signs⟩
    have all : sortToken name = List.replicate (count + 2) '+' :=
      (tokenFrom_eq_replicate_iff (by decide)).mpr signs
    have longer : sortToken name = List.replicate (count + 1) '+' ++ ['+'] := by
      rw [all, ← List.replicate_succ']
    have whole := startsWith_sortToken_iff.mpr recovered
    rw [longer] at whole
    rw [token, List.replicate_succ] at all
    refine ⟨rest, rfl, ?_, ?_⟩
    · rw [(List.cons.inj all).2]
      exact List.cons_ne_nil _ _
    · rw [(List.cons.inj all).2]
      exact startsWith_of_append whole

/-- A token with a dash in front of it is too long to begin its name. -/
theorem descending_of_unsigned (recovered : IsRecovered name) (filled : ∃ c ∈ name, c ≠ ' ') :
    direction? ('-' :: sortToken name) name = some .descending := by
  rw [direction?_eq_descending_iff]
  refine ⟨?_, _, rfl, sortToken_ne_nil filled, startsWith_sortToken_iff.mpr recovered⟩
  rw [← Bool.not_eq_true]
  intro starts
  have spaceless : ' ' ∉ '-' :: sortToken name := by
    rw [List.mem_cons, not_or]
    exact ⟨by decide, space_not_mem_tokenFrom⟩
  have short : (sortToken name).length + 1 ≤ _ := length_le_of_startsWith spaceless starts
  have long : _ ≤ (sortToken name).length := length_le_tokenFrom
  omega

/-- The token of a name turned around names it in descending order exactly if the name does not begin
with a sign, or is nothing but several plus signs. -/
theorem direction?_flip_sortToken_iff (filled : ∃ c ∈ name, c ≠ ' ') (recovered : IsRecovered name) :
    direction? (flip (sortToken name)) name = some .descending ↔
      name.find? (· ≠ ' ') ≠ some '-' ∧
        (name.find? (· ≠ ' ') = some '+' →
          ∃ count, name.filter (· ≠ ' ') = List.replicate (count + 2) '+') := by
  obtain ⟨c, rest, token⟩ := List.exists_cons_of_ne_nil (sortToken_ne_nil filled)
  have head {sign : Char} (low : sign.toNat ≤ 64) : name.find? (· ≠ ' ') = some sign ↔ c = sign := by
    have first : (tokenFrom [] name).head? = some c := by
      rw [← sortToken_eq_tokenFrom, token, List.head?_cons]
    rw [← head?_tokenFrom_eq_sign_iff  low, first, Option.some.injEq]
  rw [ne_eq, head (by decide), head (by decide)]
  by_cases dash : c = '-'
  · rw [dash] at token
    rw [token]
    exact iff_of_false (not_descending_of_undashed recovered token) fun both => both.1 dash
  · rw [and_iff_right dash]
    by_cases plus : c = '+'
    · rw [plus] at token
      rw [forall_prop_of_true plus, token]
      exact descending_of_plus_iff recovered token
    · have named := descending_of_unsigned recovered filled
      rw [token] at named ⊢
      rw [flip_of_unsigned dash plus]
      exact iff_of_true named fun same => (plus same).elim

/-- **Own tokens.** The token made from a name names it in ascending order, and turned around in
descending order, exactly if the name is recovered from it and begins with no sign, or is nothing but
several plus signs. -/
theorem names_both_ways_iff (name : Text) (filled : ∃ c ∈ name, CharClass.isBlank c = false) :
    direction? (sortToken name) name = some .ascending ∧
        direction? (flip (sortToken name)) name = some .descending ↔
      IsRecovered name ∧ name.find? (· ≠ ' ') ≠ some '-' ∧
        (name.find? (· ≠ ' ') = some '+' →
          ∃ count, name.filter (· ≠ ' ') = List.replicate (count + 2) '+') := by
  have spaced : ∃ c ∈ name, c ≠ ' ' := by
    obtain ⟨c, member, solid⟩ := filled
    refine ⟨c, member, ?_⟩
    rintro rfl
    cases solid
  rw [direction?_sortToken_iff spaced]
  exact and_congr_right (direction?_flip_sortToken_iff spaced)

/-- The token of a name with a dotted capital I does not name it, and the token of a name with a dash
in front does not once it is turned around. -/
theorem not_both_ways_of_dotted_of_dash :
    let dotted : Text := ['İ']
    let dashed : Text := ['-', 'a']
    (∃ c ∈ dotted, CharClass.isBlank c = false) ∧ (∃ c ∈ dashed, CharClass.isBlank c = false) ∧
      ¬(direction? (sortToken dotted) dotted = some .ascending ∧
        direction? (flip (sortToken dotted)) dotted = some .descending) ∧
      ¬(direction? (sortToken dashed) dashed = some .ascending ∧
        direction? (flip (sortToken dashed)) dashed = some .descending) := by
  intro dotted dashed
  have filled : ∃ c ∈ dotted, CharClass.isBlank c = false := ⟨'İ', by decide, by decide⟩
  have filled' : ∃ c ∈ dashed, CharClass.isBlank c = false := ⟨'a', by decide, by decide⟩
  refine ⟨filled, filled', ?_, ?_⟩
  · rw [names_both_ways_iff dotted filled]
    exact fun both => both.1.undotted (by decide)
  · rw [names_both_ways_iff dashed filled']
    exact fun both => both.2.1 (by decide)

end ColumnName

end TableSearch
