import TableSearch.Proofs.Pattern.Follows
import TableSearch.Proofs.Text.Join

/-! # Numbers, escapes and groups in lower case

The steps of the reader that take signs, digits and escaped characters read the same in the lower-case
form of a pattern, and so do counts and the numbers of groups.
-/

namespace TableSearch

namespace Text

variable {text : Text} {c : Char}

/-- A character of a text is left when a run is taken off its start, unless it belongs to such
runs. -/
theorem mem_dropWhile_or {p : Char → Bool} (member : c ∈ text) :
    c ∈ text.dropWhile p ∨ p c = true := by
  rw [← List.takeWhile_append_dropWhile (p := p) (l := text), List.mem_append] at member
  rcases member with front | back
  · exact .inr (List.all_eq_true.mp List.all_takeWhile c front)
  · exact .inl back

/-- A character of a text is left when the text is trimmed, unless it is blank. -/
theorem mem_trim_or_isBlank (member : c ∈ text) : c ∈ text.trim ∨ CharClass.isBlank c = true := by
  rcases mem_dropWhile_or (p := CharClass.isBlank) member with inside | blank
  · rcases mem_dropWhile_or (p := CharClass.isBlank) (List.mem_reverse.mpr inside) with inside | blank
    · exact .inl (List.mem_reverse.mpr inside)
    · exact .inr blank
  · exact .inr blank

end Text

namespace Pattern

open CharCase

variable {s t : Reading} {tokens rest : List Token} {c d : Char}

/-! ## Runs of characters -/

/-- The characters of a class are taken in pairs. -/
theorem follows_takeUpTo {p : Char → Bool} {R : Char → Char → Prop}
    (same : ∀ c d, Becomes c d → p d = p c) (alike : ∀ c d, Becomes c d → p c = true → R c d)
    {count : Nat} (lowers : s.Lowers tokens) :
    Follows (List.Forall₂ R) (takeUpTo p count) (takeUpTo p count) s tokens := by
  induction count generalizing s tokens with
  | zero => exact follows_pure lowers .nil
  | succ count ih =>
      unfold takeUpTo
      refine follows_peek_bind ?_
      rcases lowers.head?_cases with ⟨none, none'⟩ | ⟨token, other, here, there, lowered⟩
      · rw [none, none']
        exact follows_pure lowers .nil
      · rw [here, there]
        cases lowered with
        | escaped => exact follows_pure lowers .nil
        | dangling => exact follows_pure lowers .nil
        | plain becomes =>
            simp only [Option.bind_some, Token.plain?, same _ _ becomes]
            refine follows_ite (fun holds => ?_) fun _ => follows_pure lowers .nil
            refine follows_take_bind ((ih lowers.tail).bind ?_)
            intro digits digits' t rest pairs lowers _
            exact follows_pure lowers (.cons (alike _ _ becomes holds) pairs)

/-- Signs and digits are taken alike. -/
theorem follows_takeLow {p : Char → Bool} (low : ∀ b, p b = true → b.toNat ≤ 64) {count : Nat}
    (lowers : s.Lowers tokens) : Follows Eq (takeUpTo p count) (takeUpTo p count) s tokens := by
  have equal : ∀ c d, Becomes c d → p c = true → c = d := fun c d becomes holds =>
    (becomes.eq_of_isLower (isLower_of_low (low c holds))).symm
  refine (follows_takeUpTo (fun c d becomes => becomes.class_eq low) equal lowers).mono ?_
  intro digits digits' pairs
  rwa [List.forall₂_eq_eq_eq] at pairs

theorem toNat_le_of_isDigit (digit : isDigit c = true) : c.toNat ≤ 64 := by
  rw [isDigit_iff] at digit
  omega

theorem toNat_le_of_isOctal (octal : isOctal c = true) : c.toNat ≤ 64 := by
  rw [isOctal, Bool.and_eq_true, decide_eq_true_eq, decide_eq_true_eq, le_iff_toNat] at octal
  exact le_trans octal.2 (by decide)

/-- A capital letter and the small one stand for the same hexadecimal digit. -/
theorem hexValue?_of_capital (low : 65 ≤ c.toNat) (high : c.toNat ≤ 90)
    (above : d.toNat = c.toNat + 32) : hexValue? d = hexValue? c := by
  have codes : ('0').toNat = 48 ∧ ('9').toNat = 57 ∧ ('a').toNat = 97 ∧ ('f').toNat = 102 ∧
      ('A').toNat = 65 ∧ ('F').toNat = 70 := by decide
  simp only [hexValue?, isDigit, Bool.and_eq_true, decide_eq_true_eq, le_iff_toNat, codes, above]
  by_cases hex : c.toNat ≤ 70
  · rw [if_neg (by omega), if_pos (by omega), if_neg (by omega), if_neg (by omega),
      if_pos (by omega)]
    exact congrArg some (by omega)
  · rw [if_neg (by omega), if_neg (by omega), if_neg (by omega), if_neg (by omega),
      if_neg (by omega), if_neg (by omega)]

/-- No character beyond ASCII is a hexadecimal digit. -/
theorem hexValue?_of_beyond (beyond : ¬c.toNat < 128) : hexValue? c = none := by
  have codes : ('9').toNat = 57 ∧ ('f').toNat = 102 ∧ ('F').toNat = 70 := by decide
  simp only [hexValue?, isDigit, Bool.and_eq_true, decide_eq_true_eq, le_iff_toNat, codes]
  rw [if_neg (by omega), if_neg (by omega), if_neg (by omega)]

/-- A digit of any case has the same value. -/
theorem hexValue?_eq (becomes : Becomes c d) : hexValue? d = hexValue? c := by
  by_cases small : d.toNat < 128
  · rcases becomes.ascii small with rfl | ⟨low, high, above⟩ | ⟨kelvin, rfl⟩
    · rfl
    · exact hexValue?_of_capital low high above
    · rw [hexValue?_of_beyond (c := c) (by omega)]
      decide
  · rw [hexValue?_of_beyond small, hexValue?_of_beyond (becomes.beyond small)]

/-- Digits of the same values make the same number. -/
theorem numberIn_eq {base : Nat} {digits others : Text}
    (same : List.Forall₂ (fun c d => hexValue? d = hexValue? c) digits others) :
    numberIn base others = numberIn base digits := by
  have folded : ∀ value, others.foldl (fun value c => value * base + (hexValue? c).getD 0) value =
      digits.foldl (fun value c => value * base + (hexValue? c).getD 0) value := by
    induction same with
    | nil => exact fun _ => rfl
    | cons first _ ih =>
        intro value
        rw [List.foldl_cons, List.foldl_cons, first, ih]
  exact folded 0

/-- A code in hexadecimal digits is read the same, whatever the case of its letters. -/
theorem follows_takeHex {count : Nat} (lowers : s.Lowers tokens) :
    Follows Eq (takeHex count) (takeHex count) s tokens := by
  unfold takeHex
  refine (follows_takeUpTo (fun c d becomes => by rw [hexValue?_eq becomes])
    (fun c d becomes _ => hexValue?_eq becomes) lowers).bind ?_
  intro digits others t rest same lowers _
  rw [numberIn_eq same, same.length_eq]
  exact follows_unless fun _ => follows_unless fun _ => follows_pure lowers rfl

/-! ## Escapes -/

/-- The code of a character is read the same. -/
theorem follows_readCode (lowers : s.Lowers tokens) :
    Follows Eq (readCode c) (readCode c) s tokens := by
  unfold readCode
  refine follows_ite (fun _ => follows_takeHex lowers) fun _ => ?_
  refine follows_ite (fun _ => follows_takeHex lowers) fun _ => ?_
  refine follows_ite (fun _ => follows_takeHex lowers) fun _ => ?_
  exact follows_ite (fun _ => follows_refuse) fun _ => follows_pure lowers rfl

/-- An escape in a set that is not changed is read the same. -/
theorem follows_readSetEscape {mode : Mode} (lowers : s.Lowers tokens) :
    Follows Eq (readSetEscape mode c) (readSetEscape mode c) s tokens := by
  unfold readSetEscape
  cases controlCode? c with
  | some code => exact follows_pure lowers rfl
  | none =>
      cases kindOf? c with
      | some kind => exact follows_pure lowers rfl
      | none =>
          refine follows_ite (fun _ => ?_) fun _ => ?_
          · refine (follows_takeLow (fun _ => toNat_le_of_isOctal) lowers).bind ?_
            rintro digits _ t rest rfl lowers -
            exact follows_unless fun _ => follows_pure lowers rfl
          · refine (follows_readCode lowers).bind ?_
            rintro code _ t rest rfl lowers -
            exact follows_pure lowers rfl

/-- A group that may not be asked for inside a look to the left is refused in both. -/
theorem follows_checkOuter {group : Nat} (lowers : s.Lowers tokens) :
    Follows Eq (checkOuter group) (checkOuter group) s tokens := by
  unfold checkOuter
  refine follows_get_bind ?_
  dsimp only [Reading.onTokens]
  cases s.outerGroups with
  | none => exact follows_pure lowers rfl
  | some limit => exact follows_ite (fun _ => follows_refuse) fun _ => follows_pure lowers rfl

/-- A reference back to a group is read the same. -/
theorem follows_readBackref {mode : Mode} {group : Nat} (lowers : s.Lowers tokens) :
    Follows Eq (readBackref mode group) (readBackref mode group) s tokens := by
  unfold readBackref
  refine follows_get_bind ?_
  dsimp only [Reading.onTokens]
  cases (s.widths[group]?).join with
  | none => exact follows_refuse
  | some width =>
      refine (follows_checkOuter lowers).bind ?_
      rintro _ _ t rest - lowers -
      exact follows_pure lowers rfl

/-- A number behind a backslash is read the same, as a code or as a reference. -/
theorem follows_readNumberEscape {mode : Mode} (lowers : s.Lowers tokens) :
    Follows Eq (readNumberEscape mode c) (readNumberEscape mode c) s tokens := by
  unfold readNumberEscape
  refine (follows_takeLow (fun _ => toNat_le_of_isDigit) lowers).bind ?_
  rintro second _ t rest rfl lowers -
  refine follows_ite_bind (fun _ => follows_takeLow (fun _ => toNat_le_of_isOctal) lowers)
    (fun _ => follows_pure lowers rfl) ?_
  rintro third _ t rest rfl lowers
  refine follows_ite (fun _ => follows_unless fun _ => follows_pure lowers rfl) fun _ => ?_
  refine (follows_readBackref lowers).bind ?_
  rintro node _ t rest rfl lowers -
  exact follows_pure lowers rfl

/-- An escape that is not changed is read the same. -/
theorem follows_readEscape {mode : Mode} (lowers : s.Lowers tokens) :
    Follows Eq (readEscape mode c) (readEscape mode c) s tokens := by
  unfold readEscape
  cases anchorOf? mode c with
  | some condition => exact follows_pure lowers rfl
  | none =>
      cases kindOf? c with
      | some kind => exact follows_pure lowers rfl
      | none =>
          cases controlCode? c with
          | some code => exact follows_pure lowers rfl
          | none =>
              refine follows_ite (fun _ => ?_) fun _ => ?_
              · refine (follows_takeLow (fun _ => toNat_le_of_isOctal) lowers).bind ?_
                rintro digits _ t rest rfl lowers -
                exact follows_pure lowers rfl
              · refine follows_ite (fun _ => follows_readNumberEscape lowers) fun _ => ?_
                refine (follows_readCode lowers).bind ?_
                rintro code _ t rest rfl lowers -
                exact follows_pure lowers rfl

/-! ## Repetitions -/

/-- A number of repetitions is read the same, or refused in both if it is too large. -/
theorem follows_readCount {digits : Text} (lowers : s.Lowers tokens) :
    Follows Eq (readCount digits) (readCount digits) s tokens := by
  unfold readCount
  refine follows_ite (fun _ => ?_) fun _ => ?_
  · rintro _ _ ⟨⟩
  · refine follows_ite (fun _ => ?_) fun _ => follows_pure lowers rfl
    rintro _ _ ⟨⟩

/-- The bounds of a repetition in braces are read the same. -/
theorem follows_readBraces (lowers : s.Lowers tokens) :
    Follows Eq readBraces readBraces s tokens := by
  have start := lowers
  have length : (s.onTokens tokens).tokens.length = s.tokens.length := lowers.tokens.length_eq.symm
  unfold readBraces
  refine follows_get_bind ?_
  rw [length]
  refine follows_peek_bind ?_
  rw [lowers.head?_beq_eq (by decide)]
  refine follows_ite (fun _ => follows_pure lowers rfl) fun _ => ?_
  refine (follows_takeLow (p := isDigit) (fun _ => toNat_le_of_isDigit) lowers).bind ?_
  rintro low _ t rest rfl lowers -
  refine (follows_accept lowers (by decide)).bind ?_
  rintro ranged _ t rest rfl lowers -
  refine follows_ite_bind
    (fun _ => follows_takeLow (p := isDigit) (fun _ => toNat_le_of_isDigit) lowers)
    (fun _ => follows_pure lowers rfl) ?_
  rintro high _ t rest rfl lowers
  refine (follows_accept lowers (by decide)).bind ?_
  rintro closed _ t rest rfl lowers -
  refine follows_ite (fun _ => ?_) fun _ => follows_peek_bind ?_
  · -- Braces that hold no counts are read again as plain text.
    refine (follows_set start).bind ?_
    rintro _ _ t rest rfl lowers -
    exact follows_pure lowers rfl
  rw [lowers.head?_dangling_eq]
  refine follows_unless fun _ => ?_
  refine follows_ite_bind (fun _ => follows_pure lowers rfl) (fun _ => follows_readCount lowers) ?_
  rintro least _ t rest rfl lowers
  refine follows_ite (fun _ => follows_pure lowers rfl) fun _ => ?_
  refine (follows_readCount lowers).bind ?_
  rintro most _ t rest rfl lowers -
  exact follows_unless fun _ => follows_pure lowers rfl

/-- The bounds of a repetition are read the same, whatever sign begins them. -/
theorem follows_readBounds (lowers : s.Lowers tokens) :
    Follows Eq (readBounds c) (readBounds c) s tokens := by
  unfold readBounds
  refine follows_ite (fun _ => follows_pure lowers rfl) fun _ => ?_
  refine follows_ite (fun _ => follows_pure lowers rfl) fun _ => ?_
  refine follows_ite (fun _ => follows_pure lowers rfl) fun _ => follows_readBraces lowers

/-- Whether two parts of a sequence match alike and can be repeated alike. -/
structure Item.Alike (item other : Item) : Prop where
  node : item.node.Alike other.node
  kind : other.kind = item.kind

/-- Repeating the last part of two sequences whose parts match alike is allowed alike, and leads to
such sequences. -/
theorem follows_repeatLast {bounds : Bounds} {items others : List Item}
    (alike : List.Forall₂ Item.Alike items others) (lowers : s.Lowers tokens) :
    Follows (List.Forall₂ Item.Alike) (repeatLast bounds items) (repeatLast bounds others) s
      tokens := by
  cases alike with
  | nil => exact follows_refuse
  | cons first later =>
      rw [repeatLast, repeatLast, first.kind]
      refine follows_unless fun _ => ?_
      refine (follows_accept lowers (by decide)).bind ?_
      rintro lazy _ t rest rfl lowers -
      refine follows_ite_bind (fun _ => follows_pure lowers rfl)
        (fun _ => follows_accept lowers (by decide)) ?_
      rintro possessive _ t rest rfl lowers
      exact follows_pure lowers (.cons ⟨.loop _ _ _ first.node, rfl⟩ later)

/-! ## Groups -/

theorem follows_openGroup (lowers : s.Lowers tokens) :
    Follows Eq (openGroup none) (openGroup none) s tokens := by
  rintro _ _ ⟨⟩
  exact ⟨_, tokens, rfl, rfl, lowers.tokens, lowers.kept, lowers.unnamed⟩

/-- A group that is closed around patterns that match alike matches alike. -/
theorem follows_closeGroup {group : Nat} {node other : Node} (alike : node.Alike other)
    (lowers : s.Lowers tokens) :
    Follows Eq (closeGroup group node) (closeGroup group other) s tokens := by
  rintro _ _ ⟨⟩
  refine ⟨(), tokens, ?_, rfl, lowers.tokens, lowers.kept, lowers.unnamed⟩
  unfold closeGroup
  rw [alike.width_eq]
  rfl

/-- Up to a sign, a pattern becomes its lower-case form up to that sign. -/
theorem forall₂_takeWhile_ne {ours others : List Token}
    (lowered : List.Forall₂ Token.Lowers ours others) (sign : IsSign c) :
    List.Forall₂ Token.Lowers (ours.takeWhile (· != .plain c)) (others.takeWhile (· != .plain c)) := by
  induction lowered with
  | nil => exact .nil
  | @cons token other _ _ first _ ih =>
      have same : (other != .plain c) = (token != .plain c) := by
        rw [Bool.eq_iff_iff, bne_iff_ne, bne_iff_ne]
        exact not_congr (first.eq_plain_iff sign)
      rw [List.takeWhile_cons, List.takeWhile_cons, same]
      split
      · exact .cons first ih
      · exact .nil

/-- Both patterns end with a backslash or neither does. -/
theorem contains_dangling_eq {ours others : List Token}
    (lowered : List.Forall₂ Token.Lowers ours others) :
    others.contains .dangling = ours.contains .dangling := by
  induction lowered with
  | nil => rfl
  | cons first _ ih =>
      rw [List.contains_cons, List.contains_cons, ih]
      cases first <;> rfl

/-- A comment is skipped alike, up to the sign that ends it. -/
theorem follows_skipComment {closed : Bool} (lowers : s.Lowers tokens) (sign : IsSign c) :
    Follows Eq (skipComment c closed) (skipComment c closed) s tokens := by
  have inside := forall₂_takeWhile_ne lowers.tokens sign
  unfold skipComment
  refine follows_get_bind ?_
  rw [Reading.tokens_onTokens]
  dsimp only
  rw [contains_dangling_eq inside, ← inside.length_eq, ← lowers.tokens.length_eq]
  refine follows_unless fun _ => follows_unless fun _ => ?_
  exact follows_set (lowers.drop _)

/-- The text of the tokens of a pattern becomes that of the tokens of its lower-case form. -/
theorem forall₂_text {ours others : List Token}
    (lowered : List.Forall₂ Token.Lowers ours others) :
    List.Forall₂ Becomes (ours.flatMap Token.text) (others.flatMap Token.text) := by
  have backslash : Becomes '\\' '\\' := .of_isLower (by decide)
  induction lowered with
  | nil => exact .nil
  | cons first _ ih =>
      rw [List.flatMap_cons, List.flatMap_cons]
      refine List.rel_append ?_ ih
      cases first with
      | plain becomes => exact .cons becomes .nil
      | escaped lower => exact .cons backslash (.cons (.of_isLower lower) .nil)
      | dangling => exact .cons backslash .nil

/-- A name is taken up to the sign that ends it, and becomes the other name in lower case. -/
theorem follows_takeName (lowers : s.Lowers tokens) (sign : IsSign c) :
    Follows (List.Forall₂ Becomes) (takeName c) (takeName c) s tokens := by
  have inside := forall₂_takeWhile_ne lowers.tokens sign
  have names := forall₂_text inside
  unfold takeName
  refine follows_get_bind ?_
  rw [Reading.tokens_onTokens]
  dsimp only
  rw [contains_dangling_eq inside, ← inside.length_eq, ← lowers.tokens.length_eq]
  have empty : (List.flatMap Token.text (tokens.takeWhile (· != .plain c))).isEmpty =
      (List.flatMap Token.text (s.tokens.takeWhile (· != .plain c))).isEmpty := by
    rw [Bool.eq_iff_iff, List.isEmpty_iff_length_eq_zero, List.isEmpty_iff_length_eq_zero,
      names.length_eq]
  rw [empty]
  refine follows_unless fun _ => ?_
  refine (follows_set (lowers.drop _)).bind ?_
  rintro _ _ t rest - lowers -
  exact follows_pure lowers names

/-- No character of the number of a group is changed by lower-casing. -/
theorem isLower_of_number {name : Text}
    (digits : ((Text.splitOn '_' (if name.trim.head? == some '+' then name.trim.drop 1
      else name.trim)).any fun part => part.isEmpty || !part.all CharClass.isDecimal) = false) :
    ∀ c ∈ name, IsLower c := by
  have sign : IsLower '+' := by decide
  intro c member
  rcases Text.mem_trim_or_isBlank member with inside | blank
  · have written : c = '+' ∨
        c ∈ if name.trim.head? == some '+' then name.trim.drop 1 else name.trim := by
      split
      · rename_i plus
        rw [beq_iff_eq] at plus
        obtain ⟨rest, same⟩ := List.head?_eq_some_iff.mp plus
        rw [same] at inside ⊢
        exact List.mem_cons.mp inside
      · exact .inr inside
    rcases written with rfl | inside
    · exact sign
    · by_cases separator : c = '_'
      · rw [separator]
        decide
      · obtain ⟨part, piece, here⟩ := Text.mem_splitOn inside separator
        have decimals := List.any_eq_false.mp digits part piece
        rw [Bool.not_eq_true, Bool.or_eq_false_iff, Bool.not_eq_false'] at decimals
        exact isLower_of_isDecimal (List.all_eq_true.mp decimals.2 c here)
  · exact isLower_of_isBlank blank

/-- The group of a choice is read the same, if it is given by its number. -/
theorem follows_readCondition (lowers : s.Lowers tokens) :
    Follows Eq readCondition readCondition s tokens := by
  unfold readCondition
  refine (follows_takeName lowers (by decide)).bind ?_
  intro name other t rest becomes lowers _
  by_cases named : isName name = true
  · -- No group has a name.
    rw [if_pos named]
    intro a u ran
    rw [bind_eq_ok_iff] at ran
    obtain ⟨_, _, ⟨⟩, ran⟩ := ran
    rw [lowers.unnamed] at ran
    cases ran
  · rw [if_neg named]
    dsimp only
    by_cases misread : ((Text.splitOn '_' (if (Text.trim name).head? == some '+' then
      (Text.trim name).drop 1 else Text.trim name)).any fun part =>
        part.isEmpty || !part.all CharClass.isDecimal) = true
    · rw [if_pos misread]
      rintro _ _ ⟨⟩
    · have lower := isLower_of_number (Bool.eq_false_iff.mpr misread)
      rw [Becomes.eq_of_forall₂ becomes lower, if_neg named, if_neg misread]
      refine follows_unless fun _ => follows_unless fun _ => ?_
      refine (follows_modify lowers (fun _ => rfl) rfl rfl).bind ?_
      rintro _ _ t rest - lowers -
      refine (follows_checkOuter lowers).bind ?_
      rintro _ _ t rest - lowers -
      exact follows_pure lowers rfl

end Pattern

end TableSearch
