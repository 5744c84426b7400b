import TableSearch.Pattern.Parser
import TableSearch.Proofs.Pattern.Alike
import TableSearch.Proofs.Text.Letters

/-! # Patterns that say nothing about letter case

Lower-casing a pattern changes what it says where a character behind a backslash changes, where a
group has a name or turns the comparison of letters, and where a range of a character set comes to
hold other letters (`TableSearch.Pattern.IsCaseless`).
-/

namespace TableSearch

namespace Pattern

open CharCase

namespace Token

/-- Whether lower-casing leaves a token as it is, if it leaves escaped characters as they are. -/
def IsSteady : Token → Prop
  | plain c => IsLower c
  | _ => True

/-- Whether a range between two tokens stays the same: neither of them changes, or both are characters
and the range between what they become takes in the same characters. -/
inductive KeepsRange : Token → Token → Prop
  | steady {low high : Token} (first : low.IsSteady) (last : high.IsSteady) : KeepsRange low high
  | letters {low high : Char}
      (same : ∀ c d, Becomes low c → Becomes high d →
        c ≤ d ∧ (CharItem.range low.toNat high.toNat).Alike (.range c.toNat d.toNat)) :
      KeepsRange (plain low) (plain high)

/-- A range between two capitals of the ASCII range stays the same. -/
theorem KeepsRange.of_capitals {low high : Char} (least : 65 ≤ low.toNat) (proper : low ≤ high)
    (most : high.toNat ≤ 90) : KeepsRange (plain low) (plain high) := by
  have ordered : low.toNat ≤ high.toNat := proper
  refine .letters fun c d first last => ?_
  have above := first.toNat_of_capital least (by omega)
  have above' := last.toNat_of_capital (by omega) most
  rw [le_iff_toNat, above, above']
  exact ⟨by omega, fun _ => takes_capitals least most⟩

/-- How many tokens behind one of a character set belong to the same member of it: the digits of a
code. -/
def digits (rest : List Token) : Token → Nat
  | escaped c =>
    if isOctal c then ((rest.take 2).takeWhile fun token => token.plain?.any isOctal).length
    else if c = 'x' then 2 else if c = 'u' then 4 else if c = 'U' then 8 else 0
  | _ => 0

/-- What follows a member of a character set. -/
def behind (token : Token) (rest : List Token) : List Token :=
  rest.drop (digits rest token)

/-- The ends of the ranges in a character set, up to its closing bracket, which is a member if it
comes first. -/
def ranges : Nat → Bool → List Token → List (Token × Token)
  | 0, _, _ => []
  | _, _, [] => []
  | fuel + 1, first, low :: rest =>
    if low == plain ']' && !first then []
    else
      match low.behind rest with
      | plain '-' :: high :: more =>
        if high == plain ']' then [] else (low, high) :: ranges fuel false (high.behind more)
      | more => ranges fuel false more

/-- A member of a set with a dash behind it, which is not the last one, begins a range. -/
theorem ranges_of_dash {fuel : Nat} {first : Bool} {low high : Token} {rest more : List Token}
    (inside : ¬(low == plain ']' && !first) = true)
    (dash : low.behind rest = plain '-' :: high :: more) (proper : high ≠ plain ']') :
    ranges (fuel + 1) first (low :: rest) = (low, high) :: ranges fuel false (high.behind more) := by
  rw [ranges, if_neg inside, dash]
  exact if_neg (mt beq_iff_eq.mp proper)

/-- A member of a set without a dash behind it begins no range. -/
theorem ranges_of_other {fuel : Nat} {first : Bool} {low : Token} {rest : List Token}
    (inside : ¬(low == plain ']' && !first) = true)
    (other : (low.behind rest).head? ≠ some (plain '-')) :
    ranges (fuel + 1) first (low :: rest) = ranges fuel false (low.behind rest) := by
  rw [ranges, if_neg inside]
  split
  · rename_i same
    rw [same] at other
    exact (other rfl).elim
  · rfl

/-- The ends of the ranges in a character set after its opening bracket. -/
def setRanges : List Token → List (Token × Token)
  | plain '^' :: rest => ranges (rest.length + 1) true rest
  | rest => ranges (rest.length + 1) true rest

theorem setRanges_of_other {tokens : List Token} (other : tokens.head? ≠ some (plain '^')) :
    setRanges tokens = ranges (tokens.length + 1) true tokens := by
  unfold setRanges
  split
  · exact (other rfl).elim
  · rfl

/-- Whether the head of a group after its question mark neither has a name nor changes how letters are
compared. -/
def keepsHead : List Token → Bool
  | plain c :: rest =>
    if (ModeLetter.ofChar? c).isSome then c != 'a' && keepsHead rest else c != '-' && c != 'P'
  | _ => true

/-- Whether lower-casing keeps the groups and the ranges of a pattern. -/
structure Keeps (tokens : List Token) : Prop where
  heads : ∀ rest, plain '(' :: plain '?' :: rest <:+ tokens → keepsHead rest = true
  ranges : ∀ rest, plain '[' :: rest <:+ tokens →
    ∀ range ∈ setRanges rest, KeepsRange range.1 range.2

theorem Keeps.of_suffix {tokens rest : List Token} (kept : Keeps tokens) (suffix : rest <:+ tokens) :
    Keeps rest :=
  ⟨fun _ inside => kept.heads _ (inside.trans suffix),
    fun _ inside => kept.ranges _ (inside.trans suffix)⟩

/-- Whether a token becomes another one in lower case.  An escaped character has to stay. -/
inductive Lowers : Token → Token → Prop
  | plain {c d : Char} (becomes : Becomes c d) : Lowers (plain c) (plain d)
  | escaped {c : Char} (lower : IsLower c) : Lowers (escaped c) (escaped c)
  | dangling : Lowers dangling dangling

variable {token other : Token} {c : Char}

/-- Lower-casing makes a token a sign only if it is that sign already. -/
theorem Lowers.eq_plain_iff (lowers : token.Lowers other) (sign : IsSign c) :
    other = Token.plain c ↔ token = Token.plain c := by
  cases lowers with
  | plain becomes => rw [plain.injEq, plain.injEq, becomes.eq_iff sign]
  | escaped lower => exact iff_of_false nofun nofun
  | dangling => exact iff_of_false nofun nofun

end Token

/-- Whether lower-casing keeps what a pattern says: it has no dotted capital I, no character that
lower-casing changes behind a backslash, no group with a name or with mode letters on how letters are
compared, and only ranges that take in the same characters. -/
structure IsCaseless (source : Text) : Prop where
  undotted : 'İ' ∉ source
  escapes : ∀ c, Token.escaped c ∈ Token.ofText source → IsLower c
  kept : Token.Keeps (Token.ofText source)

/-- The set of the capitals of the ASCII range says nothing about letter case. -/
theorem isCaseless_of_capitals : IsCaseless ['[', 'A', '-', 'Z', ']'] := by
  have tokens : Token.ofText ['[', 'A', '-', 'Z', ']'] =
      ['[', 'A', '-', 'Z', ']'].map Token.plain := by decide +kernel
  refine ⟨by decide, ?_, ?_, ?_⟩
  · rw [tokens]
    intro c member
    simp at member
  · rw [tokens]
    intro rest inside
    simp [List.suffix_cons_iff] at inside
  · rw [tokens]
    intro rest inside range member
    have split : rest = ['A', '-', 'Z', ']'].map Token.plain := by
      simpa [List.suffix_cons_iff] using inside
    have only : Token.setRanges rest = [(.plain 'A', .plain 'Z')] := by
      rw [split]
      decide +kernel
    rw [only, List.mem_singleton] at member
    rw [member]
    exact .of_capitals (by decide) (by decide) (by decide)

/-- Every character but a backslash is a token. -/
theorem ofText_cons_of_ne {c : Char} {text : Text} (differs : c ≠ '\\') :
    Token.ofText (c :: text) = .plain c :: Token.ofText text := by
  rw [Token.ofText]
  · rintro rfl
    exact (differs rfl).elim
  · rintro _ _ rfl
    exact (differs rfl).elim

/-- The tokens of a pattern become those of its lower-case form, if no escaped character changes. -/
theorem lowers_ofText {text other : Text} (becomes : List.Forall₂ Becomes text other)
    (escapes : ∀ c, Token.escaped c ∈ Token.ofText text → IsLower c) :
    List.Forall₂ Token.Lowers (Token.ofText text) (Token.ofText other) := by
  have backslash : ∀ {d : Char}, Becomes '\\' d → d = '\\' :=
    fun becomes => becomes.eq_of_isLower (by decide)
  induction text using Token.ofText.induct generalizing other with
  | case1 =>
      cases becomes
      exact .nil
  | case2 =>
      cases becomes with
      | cons first later =>
          cases later
          rw [backslash first]
          exact .cons .dangling .nil
  | case3 c rest ih =>
      cases becomes with
      | cons first later =>
          cases later with
          | cons second later =>
              have here : IsLower c := escapes c List.mem_cons_self
              rw [backslash first, second.eq_of_isLower here]
              exact .cons (.escaped here)
                (ih later fun b member => escapes b (List.mem_cons_of_mem _ member))
  | case4 c rest single double ih =>
      cases becomes with
      | @cons _ d _ others first later =>
          have differs : c ≠ '\\' := by
            rintro rfl
            cases rest with
            | nil => exact single rfl rfl
            | cons b rest => exact double b rest rfl rfl
          have differs' : d ≠ '\\' := mt (first.eq_iff (by decide)).mp differs
          rw [ofText_cons_of_ne differs] at escapes ⊢
          rw [ofText_cons_of_ne differs']
          exact .cons (.plain first)
            (ih later fun b member => escapes b (List.mem_cons_of_mem _ member))

end Pattern

end TableSearch
