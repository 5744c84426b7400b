import Mathlib.Data.List.Basic
import TableSearch.Number.Natural
import TableSearch.Proofs.Text.Case

/-! # The natural order is linear

`TableSearch.Text.naturalOrder_eq`: the natural order of texts compares two keys of each text, one
after the other, whether it minds the case of letters or not.  So it is the same from both sides and
transitive, and ties no two texts.

The keys are read off the pieces of a text, which are its digit runs and its other characters.  A
digit run is known by a zero in front, which stands for all digits: no other character becomes a
digit in lower case (`TableSearch.CharCase.exists_lowerForm`).
-/

namespace TableSearch

/-! ## Digits in lower case -/

namespace CharCase

variable {c d : Char} {rest : Text}

/-- A character that lower-casing changes is no digit and becomes none. -/
theorem lowerChar_of_digits (c : Char) :
    lowerChar c = c ∨ isDigit c = false ∧ isDigit (lowerChar c) = false := by
  rcases lowerChar_eq_or_above c with same | ⟨beyond, above⟩
  · exact .inl same
  · exact .inr ⟨isDigit_eq_false (by omega), isDigit_eq_false (by omega)⟩

/-- A digit is its own lower-case form. -/
theorem lowerForm_of_isDigit (digit : isDigit c = true) : lowerForm c = [c] := by
  have plain : c ≠ 'İ' := by
    rintro rfl
    cases digit
  rw [lowerForm, if_neg plain]
  rcases lowerChar_of_digits c with same | ⟨other, -⟩
  · rw [same]
  · rw [digit] at other
    cases other

/-- A character that is no digit does not begin with one in lower case. -/
theorem exists_lowerForm (c : Char) :
    ∃ d rest, lowerForm c = d :: rest ∧ isDigit d = isDigit c := by
  rw [lowerForm]
  split
  · rename_i dotted
    rw [dotted]
    exact ⟨_, _, rfl, rfl⟩
  · refine ⟨_, _, rfl, ?_⟩
    rcases lowerChar_of_digits c with same | ⟨left, right⟩
    · rw [same]
    · rw [left, right]

end CharCase

namespace Text

/-! ## Pieces -/

/-- The digit runs and the other characters of a text. -/
def pieces : Text → List Text
  | [] => []
  | c :: rest =>
    if isDigit c then (c :: rest.takeWhile isDigit) :: pieces (rest.dropWhile isDigit)
    else [c] :: pieces rest
termination_by text => text.length
decreasing_by
  all_goals simp_wf
  have := (List.dropWhile_sublist (l := rest) isDigit).length_le
  omega

/-- The codes of the characters of a text. -/
def codes (text : Text) : List Nat :=
  text.map Char.toNat

/-- What pieces are ordered by: the number that a digit run writes, behind the code of a zero, and
the lower-case form of another character. -/
def rank (piece : Text) : List Nat :=
  if piece.all isDigit then
    48 :: (piece.dropWhile (· == '0')).length :: codes (piece.dropWhile (· == '0'))
  else codes (piece.flatMap CharCase.lowerForm)

/-- What pieces are ordered by if the case of letters may count. -/
def rankIn (ignoreCase : Bool) (piece : Text) : List Nat :=
  if ignoreCase || piece.all isDigit then rank piece else codes piece

/-- What a character is ordered by: its lower-case form, or itself if case counts. -/
def charForm (ignoreCase : Bool) (c : Char) : Text :=
  if ignoreCase then CharCase.lowerForm c else [c]

/-- What decides between pieces with the same rank: the length of a digit run, and the code of
another character. -/
def tieRank (piece : Text) : List Nat :=
  if piece.all isDigit then [piece.length] else codes piece

variable {c d : Char} {run run' text text' : Text} {ignoreCase : Bool}

theorem pieces_cons_digit (digit : isDigit c = true) :
    pieces (c :: text) = (c :: text.takeWhile isDigit) :: pieces (text.dropWhile isDigit) := by
  rw [pieces, if_pos digit]

theorem pieces_cons_other (other : isDigit c = false) : pieces (c :: text) = [c] :: pieces text := by
  rw [pieces, if_neg (by rw [other]; exact Bool.false_ne_true)]

theorem exists_pieces_cons (c : Char) (text : Text) :
    ∃ piece rest, pieces (c :: text) = piece :: rest := by
  cases digit : isDigit c with
  | true => exact ⟨_, _, pieces_cons_digit digit⟩
  | false => exact ⟨_, _, pieces_cons_other digit⟩

theorem all_isDigit_run (digit : isDigit c = true) :
    (c :: text.takeWhile isDigit).all isDigit = true := by
  rw [List.all_cons, digit, List.all_takeWhile]
  rfl

/-- The pieces of a text are the text. -/
theorem flatten_pieces (text : Text) : (pieces text).flatten = text := by
  fun_induction pieces text with
  | case1 => rfl
  | case2 c rest _ ih =>
      rw [List.flatten_cons, ih, List.cons_append, List.takeWhile_append_dropWhile]
  | case3 c rest _ ih => rw [List.flatten_cons, ih, List.singleton_append]

theorem compare_toNat : compare c.toNat d.toNat = compare c d := by
  have same : (c.toNat = d.toNat) = (c = d) := propext Char.toNat_inj
  change compareOfLessAndEq c.toNat d.toNat = compareOfLessAndEq c d
  simp only [compareOfLessAndEq, same]
  rfl

/-- The order of texts by code points is the lexicographic order of the codes. -/
theorem order_eq_compare (text text' : Text) :
    order text text' = compare (codes text) (codes text') := by
  induction text generalizing text' with
  | nil => cases text' <;> rfl
  | cons c rest ih =>
      cases text' with
      | nil => rfl
      | cons d rest' =>
          rw [order, codes, codes, List.map_cons, List.map_cons, List.compare_cons_cons, compare_toNat]
          split
          · rename_i same
            rw [same, Std.ReflOrd.compare_self, ih]
            rfl
          · rename_i differs
            cases between : compare c d with
            | lt => rfl
            | gt => rfl
            | eq => exact (differs (Std.LawfulEqOrd.eq_of_compare between)).elim

/-! ## The order of pieces -/

/-- What stands in the list of pieces of a text. -/
inductive IsPiece : Text → Prop where
  | run {c : Char} {rest : Text} (digits : (c :: rest).all isDigit = true) : IsPiece (c :: rest)
  | other {c : Char} (other : isDigit c = false) : IsPiece [c]

theorem rankIn_of_run (digits : run.all isDigit = true) :
    rankIn ignoreCase run =
      48 :: (run.dropWhile (· == '0')).length :: codes (run.dropWhile (· == '0')) := by
  rw [rankIn, digits, Bool.or_true, if_pos rfl, rank, if_pos digits]

/-- Another character is ordered by the codes of its form, which is in lower case if case does not
count. -/
theorem rankIn_of_other (other : isDigit c = false) :
    rankIn ignoreCase [c] = codes (charForm ignoreCase c) := by
  have apart : ¬[c].all isDigit = true := by
    rw [List.all_cons, other]
    exact Bool.false_ne_true
  cases ignoreCase with
  | false => exact if_neg apart
  | true =>
      change rank [c] = codes (CharCase.lowerForm c)
      rw [rank, if_neg apart, List.flatMap_singleton]

theorem tieRank_of_run (digits : run.all isDigit = true) : tieRank run = [run.length] := by
  rw [tieRank, if_pos digits]

theorem tieRank_of_other (other : isDigit c = false) : tieRank [c] = [c.toNat] := by
  rw [tieRank, if_neg]
  · rfl
  · rw [List.all_cons, other]
    exact Bool.false_ne_true

/-- Digit runs are compared as their ranks are. -/
theorem digitOrder_eq (ignoreCase : Bool) (digits : run.all isDigit = true)
    (digits' : run'.all isDigit = true) :
    digitOrder run run' = compare (rankIn ignoreCase run) (rankIn ignoreCase run') := by
  rw [digitOrder, rankIn_of_run digits, rankIn_of_run digits', List.compare_cons_cons,
    List.compare_cons_cons, Std.ReflOrd.compare_self, order_eq_compare]
  rfl

theorem charForm_of_isDigit (digit : isDigit c = true) : charForm ignoreCase c = [c] := by
  cases ignoreCase with
  | false => rfl
  | true => exact CharCase.lowerForm_of_isDigit digit

/-- What a character is ordered by begins with a digit only if the character is one. -/
theorem exists_charForm (ignoreCase : Bool) (c : Char) :
    ∃ d rest, charForm ignoreCase c = d :: rest ∧ isDigit d = isDigit c := by
  cases ignoreCase with
  | false => exact ⟨c, [], rfl, rfl⟩
  | true => exact CharCase.exists_lowerForm c

/-- Characters are compared as the codes of their forms are. -/
theorem charOrder_eq :
    charOrder ignoreCase c d =
      compare (codes (charForm ignoreCase c)) (codes (charForm ignoreCase d)) := by
  cases ignoreCase with
  | false =>
      change compare c d = compare [c.toNat] [d.toNat]
      rw [List.compare_cons_cons, compare_toNat]
      exact Ordering.then_eq.symm
  | true => exact order_eq_compare _ _

/-- All digits stand on the same side of a character that is none. -/
theorem compare_digit (digit : isDigit c = true) (other : isDigit d = false)
    (list list' more : List Nat) :
    compare (c.toNat :: list) (d.toNat :: more) = compare (48 :: list') (d.toNat :: more) := by
  rw [CharCase.isDigit_iff] at digit
  rw [← Bool.not_eq_true, CharCase.isDigit_iff] at other
  rw [List.compare_cons_cons, List.compare_cons_cons]
  by_cases below : d.toNat < 48
  · rw [Nat.compare_eq_gt.mpr (by omega), Nat.compare_eq_gt.mpr below]
    rfl
  · rw [Nat.compare_eq_lt.mpr (by omega), Nat.compare_eq_lt.mpr (by omega)]
    rfl

/-- A digit and a character that is none are ordered as the run of the digit and the character. -/
theorem charOrder_digit (digits : (c :: text).all isDigit = true) (other : isDigit d = false) :
    charOrder ignoreCase c d =
      compare (rankIn ignoreCase (c :: text)) (rankIn ignoreCase [d]) := by
  obtain ⟨e, rest, becomes, same⟩ := exists_charForm ignoreCase d
  have digit : isDigit c = true := List.all_eq_true.mp digits c List.mem_cons_self
  rw [charOrder_eq, rankIn_of_run digits, rankIn_of_other other, becomes, charForm_of_isDigit digit]
  exact compare_digit digit (same.trans other) _ _ _

theorem charOrder_other (other : isDigit c = false) (other' : isDigit d = false) :
    charOrder ignoreCase c d = compare (rankIn ignoreCase [c]) (rankIn ignoreCase [d]) := by
  rw [charOrder_eq, rankIn_of_other other, rankIn_of_other other']

theorem charOrder_swap : charOrder ignoreCase c d = (charOrder ignoreCase d c).swap := by
  rw [charOrder_eq, charOrder_eq]
  exact Std.OrientedOrd.eq_swap

/-- No digit is tied with a character that is none. -/
theorem charOrder_digit_ne_eq (digit : isDigit c = true) (other : isDigit d = false) :
    charOrder ignoreCase c d ≠ .eq := by
  obtain ⟨e, rest, becomes, same⟩ := exists_charForm ignoreCase d
  intro tied
  rw [charOrder_eq, becomes, charForm_of_isDigit digit] at tied
  have codes := List.head_eq_of_cons_eq (Std.LawfulEqOrd.eq_of_compare tied)
  rw [Char.toNat_inj] at codes
  rw [← same, ← codes, digit] at other
  cases other

/-- Characters that are tied, and are not both digits, are both none. -/
theorem other_of_charOrder_eq (apart : ¬(isDigit c && isDigit d) = true)
    (tied : charOrder ignoreCase c d = .eq) : isDigit c = false ∧ isDigit d = false := by
  cases left : isDigit c with
  | true =>
      cases right : isDigit d with
      | true =>
          rw [left, right] at apart
          exact (apart rfl).elim
      | false => exact (charOrder_digit_ne_eq left right tied).elim
  | false =>
      cases right : isDigit d with
      | true =>
          rw [charOrder_swap, Ordering.swap_eq_eq] at tied
          exact (charOrder_digit_ne_eq right left tied).elim
      | false => exact ⟨rfl, rfl⟩

/-- Characters that are not both digits are ordered as the pieces that they begin. -/
theorem exists_pieces_of_charOrder (apart : ¬(isDigit c && isDigit d) = true) (text text' : Text) :
    ∃ piece rest piece' rest', pieces (c :: text) = piece :: rest ∧
      pieces (d :: text') = piece' :: rest' ∧
      charOrder ignoreCase c d =
        compare (rankIn ignoreCase piece) (rankIn ignoreCase piece') := by
  cases left : isDigit c with
  | true =>
      cases right : isDigit d with
      | true =>
          rw [left, right] at apart
          exact (apart rfl).elim
      | false =>
          exact ⟨_, _, _, _, pieces_cons_digit left, pieces_cons_other right,
            charOrder_digit (all_isDigit_run left) right⟩
  | false =>
      cases right : isDigit d with
      | true =>
          refine ⟨_, _, _, _, pieces_cons_other left, pieces_cons_digit right, ?_⟩
          rw [charOrder_swap, charOrder_digit (all_isDigit_run right) left]
          exact Std.OrientedOrd.eq_swap.symm
      | false =>
          exact ⟨_, _, _, _, pieces_cons_other left, pieces_cons_other right,
            charOrder_other left right⟩

/-! ## The keys of a text -/

/-- What texts are ordered by first. -/
def ranks (text : Text) : List (List Nat) :=
  (pieces text).map rank

/-- What texts are ordered by first if the case of letters may count. -/
def ranksIn (ignoreCase : Bool) (text : Text) : List (List Nat) :=
  (pieces text).map (rankIn ignoreCase)

/-- What decides between texts that are otherwise tied. -/
def tieRanks (text : Text) : List (List Nat) :=
  (pieces text).map tieRank

section Keys

variable {tie : Ordering} {piece piece' : Text} {rest rest' : List Text}

/-- Where the first pieces of two texts have different ranks, these decide. -/
theorem keys_of_apart (first : pieces text = piece :: rest) (first' : pieces text' = piece' :: rest')
    (apart : compare (rankIn ignoreCase piece) (rankIn ignoreCase piece') ≠ .eq) :
    (compare (ranksIn ignoreCase text) (ranksIn ignoreCase text')).then
        (tie.then (compare (tieRanks text) (tieRanks text'))) =
      compare (rankIn ignoreCase piece) (rankIn ignoreCase piece') := by
  rw [ranksIn, ranksIn, first, first', List.map_cons, List.map_cons, List.compare_cons_cons]
  cases between : compare (rankIn ignoreCase piece) (rankIn ignoreCase piece') with
  | lt => rfl
  | gt => rfl
  | eq => exact (apart between).elim

/-- Where the first pieces of two texts have the same rank, the texts behind them decide, and
between those that are tied the first pieces do. -/
theorem keys_of_tied {more more' : Text} (first : pieces text = piece :: pieces more)
    (first' : pieces text' = piece' :: pieces more')
    (tied : compare (rankIn ignoreCase piece) (rankIn ignoreCase piece') = .eq) :
    (compare (ranksIn ignoreCase text) (ranksIn ignoreCase text')).then
        (tie.then (compare (tieRanks text) (tieRanks text'))) =
      (compare (ranksIn ignoreCase more) (ranksIn ignoreCase more')).then
        ((tie.then (compare (tieRank piece) (tieRank piece'))).then
          (compare (tieRanks more) (tieRanks more'))) := by
  rw [ranksIn, ranksIn, tieRanks, tieRanks, first, first', List.map_cons, List.map_cons, List.map_cons,
    List.map_cons, List.compare_cons_cons, List.compare_cons_cons, tied]
  exact congrArg _ (Ordering.then_assoc _ _ _).symm

end Keys

theorem compare_singleton {m n : Nat} : compare [m] [n] = compare m n := by
  rw [List.compare_cons_cons]
  exact Ordering.then_eq

/-- The natural order compares the keys of two texts. -/
theorem naturalOrderFrom_eq {tie : Ordering} :
    naturalOrderFrom ignoreCase tie text text' =
      (compare (ranksIn ignoreCase text) (ranksIn ignoreCase text')).then
        (tie.then (compare (tieRanks text) (tieRanks text'))) := by
  -- What the pieces before these texts have decided is carried along, behind all their ranks.
  fun_induction naturalOrderFrom ignoreCase tie text text' with
  | case1 tie =>
      rw [ranksIn, tieRanks, pieces]
      exact Ordering.then_eq.symm
  | case2 tie c text =>
      obtain ⟨piece, rest, first⟩ := exists_pieces_cons c text
      rw [ranksIn, ranksIn, first, pieces]
      rfl
  | case3 tie c text =>
      obtain ⟨piece, rest, first⟩ := exists_pieces_cons c text
      rw [ranksIn, ranksIn, first, pieces]
      rfl
  | case4 tie c text d text' digits run run' tied ih =>
      rw [Bool.and_eq_true] at digits
      rw [digitOrder_eq ignoreCase (all_isDigit_run digits.1) (all_isDigit_run digits.2)] at tied
      rw [keys_of_tied (pieces_cons_digit digits.1) (pieces_cons_digit digits.2) tied, ih,
        tieRank_of_run (all_isDigit_run digits.1), tieRank_of_run (all_isDigit_run digits.2),
        compare_singleton]
  | case5 tie c text d text' digits run run' apart =>
      rw [Bool.and_eq_true] at digits
      rw [digitOrder_eq ignoreCase (all_isDigit_run digits.1) (all_isDigit_run digits.2)] at apart ⊢
      rw [keys_of_apart (pieces_cons_digit digits.1) (pieces_cons_digit digits.2) apart]
  | case6 tie text c text' other ih =>
      rw [Bool.and_self, Bool.not_eq_true] at other
      rw [keys_of_tied (pieces_cons_other other) (pieces_cons_other other)
        Std.ReflOrd.compare_self, ih, Std.ReflOrd.compare_self, Ordering.then_eq]
  | case7 tie c text d text' apart differs tied ih =>
      obtain ⟨other, other'⟩ := other_of_charOrder_eq apart tied
      rw [charOrder_other other other'] at tied
      rw [keys_of_tied (pieces_cons_other other) (pieces_cons_other other') tied, ih,
        tieRank_of_other other, tieRank_of_other other', compare_singleton, compare_toNat]
  | case8 tie c text d text' apart differs decided =>
      obtain ⟨piece, rest, piece', rest', first, first', same⟩ :=
        exists_pieces_of_charOrder apart text text'
      rw [same] at decided ⊢
      rw [keys_of_apart first first' decided]

theorem naturalOrder_eq : naturalOrder text text' ignoreCase =
    compareLex (compareOn (ranksIn ignoreCase)) (compareOn tieRanks) text text' :=
  naturalOrderFrom_eq

instance : Std.TransCmp fun text text' : Text => naturalOrder text text' ignoreCase := by
  have same : (fun text text' : Text => naturalOrder text text' ignoreCase) =
      compareLex (compareOn (ranksIn ignoreCase)) (compareOn tieRanks) := by
    funext text text'
    exact naturalOrder_eq
  rw [same]
  infer_instance

theorem naturalOrder_self (text : Text) : naturalOrder text text ignoreCase = .eq := by
  rw [naturalOrder_eq]
  exact Std.ReflCmp.compare_self

theorem naturalOrder_swap (text text' : Text) :
    naturalOrder text' text ignoreCase = (naturalOrder text text' ignoreCase).swap := by
  rw [naturalOrder_eq, naturalOrder_eq]
  exact Std.OrientedCmp.eq_swap

/-- The natural order is transitive. -/
theorem naturalOrder_isLE_trans {text'' : Text} (first : (naturalOrder text text' ignoreCase).isLE)
    (second : (naturalOrder text' text'' ignoreCase).isLE) :
    (naturalOrder text text'' ignoreCase).isLE := by
  rw [naturalOrder_eq] at first second ⊢
  exact Std.TransCmp.isLE_trans first second

/-! ## Ties -/

/-- The pieces of a text are digit runs and single characters. -/
theorem isPiece_of_mem (member : run ∈ pieces text) : IsPiece run := by
  fun_induction pieces text with
  | case1 => cases member
  | case2 c rest digit ih =>
      rcases List.mem_cons.mp member with rfl | later
      · exact .run (all_isDigit_run digit)
      · exact ih later
  | case3 c rest other ih =>
      rcases List.mem_cons.mp member with rfl | later
      · exact .other ((Bool.not_eq_true _).mp other)
      · exact ih later

/-- A digit run is known by its length and by what stands behind its zeros. -/
theorem eq_of_dropWhile_eq (same : run.dropWhile (· == '0') = run'.dropWhile (· == '0'))
    (fits : run.length = run'.length) : run = run' := by
  have zeros : ∀ run : Text, run.takeWhile (· == '0') =
      List.replicate (run.takeWhile (· == '0')).length '0' := by
    intro run
    apply List.eq_replicate_of_mem
    intro c member
    exact beq_iff_eq.mp (List.all_eq_true.mp List.all_takeWhile c member)
  have whole : ∀ run : Text, run.takeWhile (· == '0') ++ run.dropWhile (· == '0') = run :=
    fun run => List.takeWhile_append_dropWhile
  have lengths : (run.takeWhile (· == '0')).length = (run'.takeWhile (· == '0')).length := by
    rw [← whole run, ← whole run', List.length_append, List.length_append, same] at fits
    exact Nat.add_right_cancel fits
  rw [← whole run, ← whole run', zeros run, zeros run', lengths, same]

theorem codes_inj : codes text = codes text' ↔ text = text' :=
  List.map_inj_right fun _ _ => Char.toNat_inj.mp

/-- No digit run has the rank of another character. -/
theorem rankIn_run_ne_other (ignoreCase : Bool) (digits : run.all isDigit = true)
    (other : isDigit c = false) :
    rankIn ignoreCase run ≠ rankIn ignoreCase [c] := by
  obtain ⟨d, rest, becomes, same⟩ := exists_charForm ignoreCase c
  rw [rankIn_of_run digits, rankIn_of_other other, becomes]
  intro equal
  have code : 48 = d.toNat := List.head_eq_of_cons_eq equal
  have digit : isDigit d = true := CharCase.isDigit_iff.mpr (by omega)
  rw [← same, digit] at other
  cases other

/-- A piece is determined by its rank and its tie rank. -/
theorem piece_eq (piece : IsPiece run) (piece' : IsPiece run')
    (same : rankIn ignoreCase run = rankIn ignoreCase run') (same' : tieRank run = tieRank run') :
    run = run' := by
  cases piece with
  | run digits =>
      cases piece' with
      | run digits' =>
          rw [rankIn_of_run digits, rankIn_of_run digits', List.cons.injEq, List.cons.injEq,
            codes_inj] at same
          rw [tieRank_of_run digits, tieRank_of_run digits', List.cons.injEq] at same'
          exact eq_of_dropWhile_eq same.2.2 same'.1
      | other other => exact (rankIn_run_ne_other _ digits other same).elim
  | other other =>
      cases piece' with
      | run digits => exact (rankIn_run_ne_other _ digits other same.symm).elim
      | other other' =>
          rw [tieRank_of_other other, tieRank_of_other other', List.cons.injEq,
            Char.toNat_inj] at same'
          rw [same'.1]

/-- Pieces are determined by their ranks and their tie ranks. -/
theorem pieces_eq {list list' : List Text} (pieces : ∀ piece ∈ list, IsPiece piece)
    (pieces' : ∀ piece ∈ list', IsPiece piece)
    (same : list.map (rankIn ignoreCase) = list'.map (rankIn ignoreCase))
    (same' : list.map tieRank = list'.map tieRank) : list = list' := by
  induction list generalizing list' with
  | nil => exact (List.map_eq_nil_iff.mp same.symm).symm
  | cons piece rest ih =>
      cases list' with
      | nil => cases same
      | cons piece' rest' =>
          rw [List.map_cons, List.map_cons, List.cons.injEq] at same same'
          rw [List.forall_mem_cons] at pieces pieces'
          rw [piece_eq pieces.1 pieces'.1 same.1 same'.1, ih pieces.2 pieces'.2 same.2 same'.2]

/-- The natural order ties no two texts. -/
theorem eq_of_naturalOrder (tied : naturalOrder text text' ignoreCase = .eq) : text = text' := by
  rw [naturalOrder_eq, compareLex, Ordering.then_eq_eq] at tied
  have same : ranksIn ignoreCase text = ranksIn ignoreCase text' :=
    Std.LawfulEqOrd.eq_of_compare tied.1
  have same' : tieRanks text = tieRanks text' := Std.LawfulEqOrd.eq_of_compare tied.2
  rw [← flatten_pieces text, ← flatten_pieces text',
    pieces_eq (fun _ => isPiece_of_mem) (fun _ => isPiece_of_mem) same same']

end Text

end TableSearch
