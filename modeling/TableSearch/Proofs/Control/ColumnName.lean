import Mathlib.Data.List.Chain
import TableSearch.Control.ColumnName
import TableSearch.Proofs.Number.Scan
import TableSearch.Proofs.Text.Fold

/-! # The token made from a column name

An order by a column is written with its name in lower case and without spaces.  The name starts with
this token exactly if it has no dotted capital I, no capital sigma that ends a word, and no space in
front of another blank (`TableSearch.ColumnName.startsWith_sortToken_iff`).
-/

namespace TableSearch

namespace ColumnName

open CharCase Text

variable {name rest typed passed before after : Text} {c d sign : Char}

/-! ## Signs and letters -/

/-- A letter is the same as its lower-case form, but for a final sigma and a dotted capital I. -/
theorem sameLetter_lowerChar (final : c ≠ 'Σ') (dotted : c ≠ 'İ') :
    sameLetter (lowerChar c) c = true := by
  have member : lowerChar c ∈ lowerForms c := by
    rw [lowerForms, if_neg final, lowerForm, if_neg dotted]
    exact List.mem_singleton_self _
  have form : lowerForm c = [lowerChar c] := if_neg dotted
  rw [sameLetter, (of_mem_lowerForms member).1.2, form, beq_self_eq_true, Bool.or_true]

theorem lowerForm_of_low (low : c.toNat ≤ 64) : lowerForm c = [c] := by
  have same : lowerChar c = c := (lowerChar_eq_or_above c).resolve_right (by omega)
  rw [lowerForm, if_neg, same]
  rintro rfl
  exact absurd low (by decide)

/-- A sign is the same letter as nothing but itself. -/
theorem sameLetter_iff_of_low (low : d.toNat ≤ 64) : sameLetter c d = true ↔ c = d := by
  rw [sameLetter, lowerForm_of_low low, Bool.or_eq_true, beq_iff_eq, beq_iff_eq]
  refine or_iff_left_of_imp fun form => ?_
  by_cases final : c = 'Σ'
  · rw [final] at form
    exact absurd ((List.singleton_inj.mp form).symm ▸ low) (by decide +kernel)
  · refine (eq_of_mem_lowerForms low ?_).symm
    rw [lowerForms, if_neg final, form]
    exact List.mem_singleton_self _

theorem sameLetter_comm : sameLetter c d = sameLetter d c := by
  rw [sameLetter, sameLetter, Bool.beq_comm, Bool.beq_comm (a := lowerForm c)]

theorem sameLetter_iff_of_low_left (low : c.toNat ≤ 64) : sameLetter c d = true ↔ d = c := by
  rw [sameLetter_comm, sameLetter_iff_of_low low]

/-- A name starts with a text if their first letters are the same and so on, or if a blank is passed
over in the name that is not typed. -/
theorem startsWith_cons_cons (c d : Char) (typed name : Text) :
    startsWith (c :: typed) (d :: name) = true ↔
      sameLetter c d = true ∧ startsWith typed name = true ∨
        sameLetter c d = false ∧ CharClass.isBlank d = true ∧ CharClass.isBlank c = false ∧
          startsWith (c :: typed) name = true := by
  rw [startsWith]
  cases sameLetter c d <;> cases CharClass.isBlank d <;> cases CharClass.isBlank c <;> simp

/-! ## Letter by letter -/

/-- The token of the end of a name, behind what has been passed of the name. -/
def tokenFrom (passed name : Text) : Text :=
  (lowerFrom passed name).filter (· ≠ ' ')

theorem sortToken_eq_tokenFrom : sortToken name = tokenFrom [] name :=
  rfl

theorem lowerAt_of_low (low : c.toNat ≤ 64) : lowerAt before c after = [c] := by
  rw [lowerAt, if_neg, lowerForm_of_low low]
  rintro rfl
  exact absurd low (by decide)

/-- Every character of a name has a lower-case form. -/
theorem exists_lowerAt_eq_cons (before : Text) (c : Char) (after : Text) :
    ∃ b form, lowerAt before c after = b :: form := by
  apply List.exists_cons_of_length_pos
  rw [length_lowerAt]
  split
  · exact Nat.two_pos
  · exact Nat.one_pos

theorem tokenFrom_space : tokenFrom passed (' ' :: rest) = tokenFrom (' ' :: passed) rest := by
  rw [tokenFrom, lowerFrom_eq, lowerAt_of_low (by decide)]
  rfl

/-- What a character becomes in its place is one of the forms that it may have. -/
theorem mem_lowerForms_of_mem_lowerAt (member : d ∈ lowerAt before c after) :
    d ∈ lowerForms c := by
  unfold lowerAt at member
  unfold lowerForms
  split at member
  · rename_i final
    rw [if_pos final, List.mem_cons, List.mem_singleton]
    rw [List.mem_singleton] at member
    rw [member]
    split
    · exact .inl rfl
    · exact .inr rfl
  · rename_i final
    rwa [if_neg final]

/-- A character other than a space adds its lower-case form to the token. -/
theorem tokenFrom_cons (apart : c ≠ ' ') :
    tokenFrom passed (c :: rest) = lowerAt passed.reverse c rest ++ tokenFrom (c :: passed) rest := by
  rw [tokenFrom, lowerFrom_eq, List.filter_append, ← tokenFrom]
  refine congrArg (· ++ _) (List.filter_eq_self.mpr fun d member => decide_eq_true ?_)
  rintro rfl
  exact apart (eq_of_mem_lowerForms (by decide) (mem_lowerForms_of_mem_lowerAt member)).symm

theorem tokenFrom_plain (apart : c ≠ ' ') (final : c ≠ 'Σ') (dotted : c ≠ 'İ') :
    tokenFrom passed (c :: rest) = lowerChar c :: tokenFrom (c :: passed) rest := by
  rw [tokenFrom_cons apart, lowerAt, if_neg final, lowerForm, if_neg dotted]
  rfl

theorem space_not_mem_tokenFrom : ' ' ∉ tokenFrom passed name := by
  intro member
  exact of_decide_eq_true (List.mem_filter.mp member).2 rfl

/-- What a token begins with is blank only if the name has a blank there that is no space. -/
theorem exists_tokenFrom_cons (passed rest : Text) (apart : d ≠ ' ') : ∃ c more,
    tokenFrom passed (d :: rest) = c :: more ∧ CharClass.isBlank c = CharClass.isBlank d := by
  obtain ⟨c, form, same⟩ := exists_lowerAt_eq_cons passed.reverse d rest
  refine ⟨c, form ++ tokenFrom (d :: passed) rest, by rw [tokenFrom_cons apart, same]; rfl, ?_⟩
  have first : c ∈ lowerAt passed.reverse d rest := same ▸ List.mem_cons_self
  have member := mem_lowerForms_of_mem_lowerAt first
  cases blank : CharClass.isBlank d with
  | false =>
      rcases (of_mem_lowerForms member).2 with same | ⟨-, solid⟩
      · rw [same, blank]
      · exact solid
  | true =>
      have final : d ≠ 'Σ' := by
        rintro rfl
        cases blank
      rw [lowerForms, if_neg final, CharClass.lowerForm_of_isBlank blank, List.mem_singleton] at member
      rw [member, blank]

/-- A space in a name is passed over by what goes on with no blank. -/
theorem startsWith_cons_space (apart : c ≠ ' ') :
    startsWith (c :: typed) (' ' :: name) = true ↔
      CharClass.isBlank c = false ∧ startsWith (c :: typed) name = true := by
  have other : sameLetter c ' ' = false := by
    rwa [← Bool.not_eq_true, sameLetter_iff_of_low (by decide)]
  rw [startsWith_cons_cons, other, Bool.false_eq_true, false_and, false_or, and_iff_right rfl]
  exact and_iff_right (by decide)

/-- A space in a name is passed over by the token of the rest unless a blank that is no space
follows. -/
theorem startsWith_tokenFrom_space_iff :
    startsWith (tokenFrom passed rest) (' ' :: rest) = true ↔
      startsWith (tokenFrom passed rest) rest = true ∧
        ∀ d ∈ rest.head?, CharClass.isBlank d = true → d = ' ' := by
  cases rest with
  | nil => exact iff_of_true rfl ⟨rfl, fun _ absent => nomatch absent⟩
  | cons d rest =>
      simp only [List.head?_cons, Option.mem_some_iff, forall_eq']
      by_cases space : d = ' '
      · rw [and_iff_left fun _ => space, space]
        cases token : tokenFrom passed (' ' :: rest) with
        | nil => exact iff_of_true rfl rfl
        | cons c more =>
            have apart : c ≠ ' ' := by
              rintro rfl
              exact space_not_mem_tokenFrom (token ▸ List.mem_cons_self)
            rw [startsWith_cons_space apart]
            exact and_iff_right_of_imp fun starts => ((startsWith_cons_space apart).mp starts).1
      · obtain ⟨c, more, token, blank⟩ :=
          exists_tokenFrom_cons passed rest space
        have apart : c ≠ ' ' := by
          rintro rfl
          exact space_not_mem_tokenFrom (token ▸ List.mem_cons_self)
        rw [token, startsWith_cons_space apart, blank, and_comm, ← Bool.not_eq_true]
        exact and_congr_right fun _ =>
          ⟨fun solid blank => (solid blank).elim, fun only blank => space (only blank)⟩

/-- **Own tokens.** A name starts with the token made from it exactly if it has no dotted capital I,
no capital sigma that ends a word, and no space in front of another blank.  The induction is on the
name; at each of its characters the token has nothing but the lower-case form of the rest left. -/
theorem startsWith_tokenFrom_iff :
    startsWith (tokenFrom passed name) name = true ↔
      'İ' ∉ name ∧
        (∀ before after, name = before ++ 'Σ' :: after →
          endsWord (passed.reverse ++ before) after = false) ∧
        name.IsChain fun c d => c = ' ' → CharClass.isBlank d = true → d = ' ' := by
  induction name generalizing passed with
  | nil =>
      refine iff_of_true rfl ⟨List.not_mem_nil, ?_, .nil⟩
      intro before after absent
      cases before <;> cases absent
  | cons c rest ih =>
      have later : (∀ before after, rest = before ++ 'Σ' :: after →
          endsWord ((c :: passed).reverse ++ before) after = false) ↔
          ∀ before after, rest = before ++ 'Σ' :: after →
            endsWord (passed.reverse ++ c :: before) after = false := by
        simp only [List.reverse_cons, List.append_assoc, List.singleton_append]
      rw [forall_eq_append_cons, List.mem_cons, not_or, List.append_nil, List.isChain_cons, ← later]
      by_cases space : c = ' '
      · have dotted : 'İ' ≠ c := by rw [space]; decide
        have final : c ≠ 'Σ' := by rw [space]; decide
        rw [and_iff_right dotted, and_iff_right fun same => (final same).elim]
        have shown := @ih (c :: passed)
        rw [space] at shown ⊢
        rw [tokenFrom_space, startsWith_tokenFrom_space_iff, shown]
        simp only [forall_true_left, and_assoc, and_comm]
      · have calm : ∀ d ∈ rest.head?, c = ' ' → CharClass.isBlank d = true → d = ' ' :=
          fun _ _ same => (space same).elim
        rw [and_iff_right calm]
        by_cases dotted : c = 'İ'
        · refine iff_of_false ?_ fun all => all.1.1 dotted.symm
          have form : lowerAt passed.reverse c rest = ['i', '\u0307'] := by
            rw [lowerAt, dotted]
            rfl
          rw [tokenFrom_cons space, form, dotted]
          exact Bool.false_ne_true
        · rw [and_iff_right fun same => dotted same.symm]
          by_cases final : c = 'Σ'
          · have solid : CharClass.isBlank c = false := by rw [final]; decide
            have inner : sameLetter 'σ' 'Σ' = true := by decide +kernel
            have outer : sameLetter 'ς' 'Σ' = false := by decide +kernel
            rw [tokenFrom_cons space, lowerAt, if_pos final, List.singleton_append,
              startsWith_cons_cons, solid, ih, final]
            cases endsWord passed.reverse rest with
            | false =>
                rw [if_neg Bool.false_ne_true, inner]
                simp
            | true =>
                rw [if_pos rfl, outer]
                simp
          · have same : sameLetter (lowerChar c) c = true := sameLetter_lowerChar final dotted
            rw [tokenFrom_plain space final dotted, startsWith, if_pos same, ih,
              and_iff_right fun same => (final same).elim]

/-- Only spaces have an empty token. -/
theorem tokenFrom_eq_nil_iff : tokenFrom passed name = [] ↔ ∀ c ∈ name, c = ' ' := by
  induction name generalizing passed with
  | nil => exact iff_of_true rfl (List.forall_mem_nil _)
  | cons c rest ih =>
      rw [List.forall_mem_cons]
      by_cases space : c = ' '
      · rw [space, tokenFrom_space, ih, and_iff_right rfl]
      · obtain ⟨b, more, same, -⟩ :=
          exists_tokenFrom_cons passed rest space
        rw [same]
        exact iff_of_false (List.cons_ne_nil _ _) fun both => space both.1

/-- Whether a column name has other characters than spaces, no blanks but spaces, and no capitals
whose lower-case form is longer or depends on what follows. -/
structure IsOrdinary (name : Text) : Prop where
  filled : ∃ c ∈ name, c ≠ ' '
  letters : ∀ c ∈ name, c ≠ 'Σ' ∧ c ≠ 'İ'
  blanks : ∀ c ∈ name, CharClass.isBlank c = true → c = ' '

/-- Whether a column name starts with the token made from it. -/
@[mk_iff]
structure IsRecovered (name : Text) : Prop where
  undotted : 'İ' ∉ name
  inner : ∀ before after, name = before ++ 'Σ' :: after → endsWord before after = false
  blanks : name.IsChain fun c d => c = ' ' → CharClass.isBlank d = true → d = ' '

/-- A name starts with the token made from it exactly if it is recovered from that token. -/
theorem startsWith_sortToken_iff : startsWith (sortToken name) name = true ↔ IsRecovered name := by
  rw [sortToken_eq_tokenFrom, startsWith_tokenFrom_iff, isRecovered_iff]
  rfl

/-- An ordinary name is recovered from its token. -/
theorem IsOrdinary.isRecovered (ordinary : IsOrdinary name) : IsRecovered name where
  undotted member := (ordinary.letters _ member).2 rfl
  inner before after same := ((ordinary.letters 'Σ' (by simp [same])).1 rfl).elim
  blanks := by
    refine (List.pairwise_of_forall_mem_list ?_).isChain
    exact fun _ _ d member _ blank => ordinary.blanks d member blank

theorem sortToken_ne_nil (filled : ∃ c ∈ name, c ≠ ' ') : sortToken name ≠ [] := by
  rw [sortToken_eq_tokenFrom, ne_eq, tokenFrom_eq_nil_iff]
  obtain ⟨c, member, apart⟩ := filled
  exact fun spaces => apart (spaces c member)

/-! ## Signs in front of a name -/

/-- A sign begins a name only if it is the first character of it that is not blank. -/
theorem startsWith_sign_eq_false (low : sign.toNat ≤ 64) (solid : CharClass.isBlank sign = false)
    (first : name.find? (!CharClass.isBlank ·) ≠ some sign) :
    startsWith (sign :: typed) name = false := by
  induction name with
  | nil => rfl
  | cons d rest ih =>
      rw [← Bool.not_eq_true, startsWith_cons_cons, sameLetter_iff_of_low_left low]
      rintro (⟨rfl, -⟩ | ⟨-, blank, -, starts⟩)
      · exact first (List.find?_cons_of_pos (by rw [solid]; rfl))
      · rw [List.find?_cons_of_neg (by rw [blank]; decide)] at first
        rw [ih first] at starts
        cases starts

/-- The token that is made from an ordinary name names it, without a sign. -/
theorem direction?_sortToken (ordinary : IsOrdinary name) :
    direction? (sortToken name) name = some .ascending := by
  obtain ⟨c, more, token⟩ := List.exists_cons_of_ne_nil (sortToken_ne_nil ordinary.filled)
  have starts := startsWith_sortToken_iff.mpr ordinary.isRecovered
  rw [token] at starts ⊢
  rw [direction?, if_pos starts]

example : direction? (sortToken ['İ']) ['İ'] = none := by decide +kernel

/-! ## Directions -/

/-- A token names a column in ascending order if the name starts with it, or with what follows a
plus sign in front. -/
theorem direction?_eq_ascending_iff {token : Text} :
    direction? token name = some .ascending ↔ token ≠ [] ∧
      (startsWith token name = true ∨
        ∃ rest, token = '+' :: rest ∧ rest ≠ [] ∧ startsWith rest name = true) := by
  cases token with
  | nil => exact iff_of_false (fun absent => nomatch absent) fun both => both.1 rfl
  | cons c rest =>
      rw [and_iff_right (List.cons_ne_nil c rest), direction?]
      by_cases starts : startsWith (c :: rest) name = true
      · rw [if_pos starts]
        exact iff_of_true rfl (.inl starts)
      · rw [if_neg starts, or_iff_right starts]
        cases rest with
        | nil => simp
        | cons d more => cases later : startsWith (d :: more) name <;> grind

/-- A token names a column in descending order if the name starts with what follows a dash in front,
but not with the dash as well. -/
theorem direction?_eq_descending_iff {token : Text} :
    direction? token name = some .descending ↔ startsWith token name = false ∧
      ∃ rest, token = '-' :: rest ∧ rest ≠ [] ∧ startsWith rest name = true := by
  cases token with
  | nil =>
      refine iff_of_false (fun absent => nomatch absent) ?_
      rintro ⟨-, rest, absent, -⟩
      cases absent
  | cons c rest =>
      rw [direction?]
      by_cases starts : startsWith (c :: rest) name = true
      · rw [if_pos starts, starts]
        simp
      · rw [if_neg starts, Bool.not_eq_true _ |>.mp starts]
        cases rest with
        | nil => simp
        | cons d more => cases later : startsWith (d :: more) name <;> grind

/-- A token without a sign is turned around by a dash in front. -/
theorem flip_of_unsigned (undashed : c ≠ '-') (unplussed : c ≠ '+') :
    flip (c :: rest) = '-' :: c :: rest := by
  unfold flip
  split
  · rename_i same
    exact (undashed (List.cons.inj same).1).elim
  · rename_i same
    exact (unplussed (List.cons.inj same).1).elim
  · rfl

theorem flip_ne (token : Text) : flip token ≠ token := by
  unfold flip
  split
  · exact (List.cons_ne_self _ _).symm
  · intro same
    cases (List.cons.inj same).1
  · exact List.cons_ne_self _ _

end ColumnName

end TableSearch
