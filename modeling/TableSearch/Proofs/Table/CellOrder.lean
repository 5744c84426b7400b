import TableSearch.Proofs.Number.NaturalOrder
import TableSearch.Proofs.Number.Order
import TableSearch.Proofs.Number.Scan
import TableSearch.Proofs.Sorting.Stability
import TableSearch.Table.CellOrder

/-! # When cells are in order

`TableSearch.CellOrder.order_trans_iff`: the order of cells is transitive on some texts exactly if
none of them tears two others apart, and then sorting puts the texts in their stable order.

Two texts that begin with numbers are compared by them, and in natural order otherwise.  So a text
without a number may stand in natural order between two texts with numbers that are the other way
round (`TableSearch.CellOrder.Torn`): `/` stands behind `.5` and before `0.1`.

The order is a list of criteria (`TableSearch.CellOrder.order_eq`), each of which is an order by
itself but the choice between numbers and natural order.  Three texts that stand in a circle pass all
criteria before that choice (`TableSearch.CellOrder.Circles.behind`).
-/

namespace TableSearch

namespace CellOrder

variable {reverse : Bool} {text text' : Text} {number number' : FoundNumber} {rounds : Nat}

/-! ## The criteria of the order of cells -/

/-- A text without a dash that it begins with. -/
def dropDash : Text → Text
  | '-' :: rest => rest
  | text => text

/-- The text behind a number, without a dash there. -/
def behind (text : Text) (number : FoundNumber) : Text :=
  dropDash (text.drop number.length)

/-- The order of two texts behind numbers: first one that ends there, then one that goes on with a
dash, then by what follows. -/
def orderRest (reverse : Bool) (next : Text → Text → Ordering) (rest rest' : Text) : Ordering :=
  (directed reverse (compare rest'.isEmpty rest.isEmpty)).then
    ((directed reverse (compare (isDashed rest') (isDashed rest))).then
      (next (dropDash rest) (dropDash rest')))

/-- The order of two texts that are both empty or both not, and both dashed or both not. -/
def orderAlike (reverse : Bool) (next : Text → Text → Ordering) (text text' : Text) : Ordering :=
  match FoundNumber.scan text, FoundNumber.scan text' with
  | some number, some number' =>
    (directed reverse (Double.order number.low number'.low)).then
      (orderRest reverse next (text.drop number.length) (text'.drop number'.length))
  | _, _ => directed reverse (Text.naturalOrder text text')

/-- The order of two texts: those with characters before those without, those with a dash before
those without, and then by numbers or in natural order. -/
def orderStep (reverse : Bool) (next : Text → Text → Ordering) (text text' : Text) : Ordering :=
  (compare text.isEmpty text'.isEmpty).then
    ((directed reverse (compare (isDashed text') (isDashed text))).then
      (orderAlike reverse next text text'))

section Step

variable {next : Text → Text → Ordering}

@[simp] theorem directed_eq : directed reverse .eq = .eq := by
  cases reverse <;> rfl

theorem directed_then {answer later : Ordering} (decided : answer ≠ .eq) :
    (directed reverse answer).then later = directed reverse answer := by
  cases answer with
  | eq => exact (decided rfl).elim
  | lt => cases reverse <;> rfl
  | gt => cases reverse <;> rfl

theorem compare_ne_eq {b b' : Bool} (differs : b ≠ b') : compare b b' ≠ .eq :=
  fun tied => differs (Std.LawfulEqOrd.eq_of_compare tied)

theorem exists_of_isDashed (dashed : isDashed text = true) : ∃ rest, text = '-' :: rest := by
  rcases text with _ | ⟨c, rest⟩
  · cases dashed
  · have same : c = '-' := Option.some.inj (beq_iff_eq.mp dashed)
    exact ⟨rest, by rw [same]⟩

theorem dropDash_of_not_isDashed (plain : isDashed text = false) : dropDash text = text := by
  rw [dropDash]
  rintro rest rfl
  cases plain

/-- A dash in front of both texts is dropped from both. -/
theorem dropSharedDash_of_same (same : isDashed text = isDashed text') :
    dropSharedDash text text' = (dropDash text, dropDash text') := by
  cases dashed : isDashed text with
  | true =>
      obtain ⟨rest, rfl⟩ := exists_of_isDashed dashed
      obtain ⟨rest', rfl⟩ := exists_of_isDashed (same.symm.trans dashed)
      rfl
  | false =>
      rw [dropDash_of_not_isDashed dashed, dropDash_of_not_isDashed (same.symm.trans dashed),
        dropSharedDash]
      rintro rest rest' rfl
      cases dashed

theorem dropSharedDash_of_differs (differs : isDashed text ≠ isDashed text') :
    dropSharedDash text text' = (text, text') := by
  rw [dropSharedDash]
  rintro rest rest' rfl rfl
  exact differs rfl

theorem orderRest_self (same : ∀ text, next text text = .eq) (rest : Text) :
    orderRest reverse next rest rest = .eq := by
  simp only [orderRest, same, Std.ReflOrd.compare_self, directed_eq, Ordering.then_eq]

/-- Two texts that begin with numbers are compared by these first, and by what is left behind them
if they are tied. -/
theorem orderAlike_of_numbers (found : FoundNumber.scan text = some number)
    (found' : FoundNumber.scan text' = some number') :
    orderAlike reverse next text text' =
      (directed reverse (Double.order number.low number'.low)).then
        (orderRest reverse next (text.drop number.length) (text'.drop number'.length)) := by
  rw [orderAlike, found, found']

/-- Two texts of which one begins with no number are in natural order. -/
theorem orderAlike_of_text
    (absent : FoundNumber.scan text = none ∨ FoundNumber.scan text' = none) :
    orderAlike reverse next text text' = directed reverse (Text.naturalOrder text text') := by
  rw [orderAlike]
  split
  · rename_i found found'
    rw [found, found'] at absent
    rcases absent with absent | absent <;> cases absent
  · rfl

/-- Two equal texts that are compared by what they say are tied. -/
theorem orderAlike_self (same : ∀ text, next text text = .eq) (text : Text) :
    orderAlike reverse next text text = .eq := by
  cases found : FoundNumber.scan text with
  | none => rw [orderAlike_of_text (.inl found), Text.naturalOrder_self, directed_eq]
  | some number =>
      rw [orderAlike_of_numbers found found, orderRest_self same, Double.order_self, directed_eq]
      rfl

end Step

/-- Two equal texts are tied, however many steps are left. -/
theorem orderFrom_self : orderFrom reverse rounds text text = .eq := by
  cases rounds with
  | zero => rfl
  | succ rounds =>
      rw [orderFrom]
      cases text with
      | nil => rfl
      | cons c rest => cases isDashed (c :: rest) <;> simp

/-- Of two texts the one with a dash in front comes first. -/
theorem orderFrom_of_dashes (filled : text ≠ []) (filled' : text' ≠ [])
    (differs : isDashed text ≠ isDashed text') :
    orderFrom reverse (rounds + 1) text text' =
      directed reverse (compare (isDashed text') (isDashed text)) := by
  rw [orderFrom, if_neg (by rwa [List.isEmpty_iff]), if_neg (by rwa [List.isEmpty_iff])]
  cases dashed : isDashed text with
  | true =>
      cases dashed' : isDashed text' with
      | true => exact (differs (dashed.trans dashed'.symm)).elim
      | false => rfl
  | false =>
      cases dashed' : isDashed text' with
      | true => rfl
      | false => exact (differs (dashed.trans dashed'.symm)).elim

/-- The order of what stands behind two equal numbers. -/
theorem orderRest_eq (rest rest' : Text) :
    (match rest, rest' with
      | [], [] => .eq
      | [], _ :: _ => directed reverse .lt
      | _ :: _, [] => directed reverse .gt
      | rest₁, rest₂ =>
        let (rest₁, rest₂) := dropSharedDash rest₁ rest₂
        orderFrom reverse (rounds + 1) rest₁ rest₂) =
      orderRest reverse (orderFrom reverse (rounds + 1)) rest rest' := by
  rcases rest with _ | ⟨c, rest⟩
  · rcases rest' with _ | ⟨d, rest'⟩
    · rw [orderRest_self fun _ => orderFrom_self]
    · exact (directed_then (by decide)).symm
  · rcases rest' with _ | ⟨d, rest'⟩
    · exact (directed_then (by decide)).symm
    · have filled : compare (d :: rest').isEmpty (c :: rest).isEmpty = .eq := rfl
      rw [orderRest, filled, directed_eq]
      change _ = (directed reverse (compare _ _)).then _
      by_cases same : isDashed (c :: rest) = isDashed (d :: rest')
      · simp only [dropSharedDash_of_same same, same, Std.ReflOrd.compare_self, directed_eq]
        rfl
      · simp only [dropSharedDash_of_differs same]
        rw [orderFrom_of_dashes (List.cons_ne_nil c rest) (List.cons_ne_nil d rest') same,
          directed_then (compare_ne_eq (Ne.symm same))]

/-- Texts that are alike in having characters and a dash are compared by what they say. -/
theorem orderFrom_of_alike (filled : text ≠ []) (filled' : text' ≠ [])
    (same : isDashed text = isDashed text') :
    orderFrom reverse (rounds + 1 + 1) text text' =
      orderAlike reverse (orderFrom reverse (rounds + 1)) text text' := by
  by_cases equal : text = text'
  · rw [← equal, orderFrom_self, orderAlike_self fun _ => orderFrom_self]
  · rw [orderFrom, if_neg (by rwa [List.isEmpty_iff]), if_neg (by rwa [List.isEmpty_iff])]
    simp only [same, Bool.and_not_self, Bool.false_eq_true, if_false, if_neg equal]
    cases found : FoundNumber.scan text with
    | none => exact (orderAlike_of_text (.inl found)).symm
    | some number =>
        cases found' : FoundNumber.scan text' with
        | none => exact (orderAlike_of_text (.inr found')).symm
        | some number' =>
            rw [orderAlike_of_numbers found found', ← orderRest_eq]
            dsimp only
            cases Double.order number.low number'.low with
            | lt => exact (directed_then (by decide : Ordering.lt ≠ .eq)).symm
            | gt => exact (directed_then (by decide : Ordering.gt ≠ .eq)).symm
            | eq =>
                rw [directed_eq]
                rfl

/-- With enough rounds, texts are ordered by the criteria one after the other. -/
theorem orderFrom_succ (enough : text.length ≤ rounds) (text' : Text) :
    orderFrom reverse (rounds + 1) text text' =
      orderStep reverse (orderFrom reverse rounds) text text' := by
  rcases text with _ | ⟨c, rest⟩
  · rcases text' with _ | ⟨d, rest'⟩
    · rw [orderFrom_self, orderStep, orderAlike_self fun _ => orderFrom_self]
      simp only [Std.ReflOrd.compare_self, directed_eq, Ordering.then_eq]
    · rfl
  · rcases text' with _ | ⟨d, rest'⟩
    · rfl
    · obtain ⟨rounds, rfl⟩ := Nat.exists_eq_succ_of_ne_zero (Nat.ne_of_gt (Nat.lt_of_lt_of_le
        (Nat.succ_pos rest.length) enough))
      have filled : compare (c :: rest).isEmpty (d :: rest').isEmpty = .eq := rfl
      rw [orderStep, filled]
      change _ = (directed reverse (compare _ _)).then _
      by_cases same : isDashed (c :: rest) = isDashed (d :: rest')
      · rw [same, Std.ReflOrd.compare_self, directed_eq]
        exact orderFrom_of_alike (List.cons_ne_nil c rest) (List.cons_ne_nil d rest') same
      · rw [orderFrom_of_dashes (List.cons_ne_nil c rest) (List.cons_ne_nil d rest') same,
          directed_then (compare_ne_eq (Ne.symm same))]

/-! ## The order without rounds -/

/-- A step asks for the order of two texts behind numbers only. -/
theorem orderStep_congr {next next' : Text → Text → Ordering}
    (same : ∀ number, FoundNumber.scan text = some number → ∀ rest',
      next (behind text number) rest' = next' (behind text number) rest') (text' : Text) :
    orderStep reverse next text text' = orderStep reverse next' text text' := by
  rw [orderStep, orderStep]
  congr 2
  cases found : FoundNumber.scan text with
  | none => rw [orderAlike_of_text (.inl found), orderAlike_of_text (.inl found)]
  | some number =>
      cases found' : FoundNumber.scan text' with
      | none => rw [orderAlike_of_text (.inr found'), orderAlike_of_text (.inr found')]
      | some number' =>
          rw [orderAlike_of_numbers found found', orderAlike_of_numbers found found', orderRest,
            orderRest]
          congr 3
          exact same number found _

theorem length_dropDash_le (text : Text) : (dropDash text).length ≤ text.length := by
  unfold dropDash
  split
  · exact Nat.le_succ _
  · exact Nat.le_refl _

/-- What is behind a number is shorter than the text that begins with it. -/
theorem length_behind_lt (found : FoundNumber.scan text = some number) :
    (behind text number).length < text.length := by
  have shorter := length_dropDash_le (text.drop number.length)
  have taken := FoundNumber.scan_length_pos found
  have nonempty : 0 < text.length := by
    rcases text with _ | ⟨c, rest⟩
    · cases found
    · exact Nat.succ_pos rest.length
  rw [List.length_drop] at shorter
  rw [behind]
  omega

/-- The number of steps does not matter to a comparison, as long as it is greater than the length of
the first text. -/
theorem orderFrom_congr {rounds' : Nat} (enough : text.length < rounds)
    (enough' : text.length < rounds') (text' : Text) :
    orderFrom reverse rounds text text' = orderFrom reverse rounds' text text' := by
  induction rounds generalizing rounds' text text' with
  | zero => cases enough
  | succ rounds ih =>
      cases rounds' with
      | zero => cases enough'
      | succ rounds' =>
          rw [orderFrom_succ (Nat.le_of_lt_succ enough), orderFrom_succ (Nat.le_of_lt_succ enough')]
          apply orderStep_congr
          intro number found rest'
          have shorter := length_behind_lt found
          exact ih (by omega) (by omega) rest'

/-- **The order of cells** compares texts by the criteria one after the other. -/
theorem order_eq (text text' : Text) :
    order reverse text text' = orderStep reverse (order reverse) text text' := by
  rw [order, orderFrom_succ (Nat.le_refl _)]
  apply orderStep_congr
  intro number found rest'
  exact orderFrom_congr (length_behind_lt found) (Nat.lt_succ_self _) rest'

theorem order_self (text : Text) : order reverse text text = .eq :=
  orderFrom_self

/-! ## Two texts seen from both sides -/

theorem directed_swap {answer : Ordering} :
    directed reverse answer.swap = (directed reverse answer).swap := by
  cases reverse <;> rfl

/-- An order turned around is an order. -/
instance {α : Type} {order : α → α → Ordering} [Std.TransCmp order] :
    Std.TransCmp fun x y => directed reverse (order x y) := by
  cases reverse with
  | false => exact inferInstanceAs (Std.TransCmp order)
  | true =>
      have turned : (fun x y => directed true (order x y)) = fun x y => order y x := by
        funext x y
        exact Std.OrientedCmp.eq_swap.symm
      rw [turned]
      exact Std.TransCmp.opposite

/-- The order of two texts is the same from both sides. -/
theorem order_swap (text text' : Text) :
    order reverse text' text = (order reverse text text').swap := by
  induction rounds : text.length using Nat.strong_induction_on generalizing text text' with
  | _ length ih =>
      rw [order_eq, order_eq text, orderStep, orderStep, Ordering.swap_then, Ordering.swap_then,
        ← directed_swap, ← Std.OrientedOrd.eq_swap, ← Std.OrientedOrd.eq_swap]
      congr 2
      cases found : FoundNumber.scan text with
      | none =>
          rw [orderAlike_of_text (.inl found), orderAlike_of_text (.inr found), ← directed_swap,
            ← Text.naturalOrder_swap]
      | some number =>
          cases found' : FoundNumber.scan text' with
          | none =>
              rw [orderAlike_of_text (.inl found'), orderAlike_of_text (.inr found'),
                ← directed_swap, ← Text.naturalOrder_swap]
          | some number' =>
              rw [orderAlike_of_numbers found found', orderAlike_of_numbers found' found, orderRest,
                orderRest, Ordering.swap_then, Ordering.swap_then, Ordering.swap_then,
                ← directed_swap, ← directed_swap, ← directed_swap, ← Std.OrientedOrd.eq_swap,
                ← Std.OrientedOrd.eq_swap, ← Double.order_swap]
              congr 3
              exact ih _ (rounds ▸ length_behind_lt found) _ _ rfl

/-! ## Three texts -/

/-- Whether the answers for three elements in a circle, each with the next, are those of no order:
none of them stands behind the next, and not all are tied. -/
structure Circles (answer answer' answer'' : Ordering) : Prop where
  first : answer ≠ .gt
  second : answer' ≠ .gt
  third : answer'' ≠ .gt
  apart : ¬(answer = .eq ∧ answer' = .eq ∧ answer'' = .eq)

/-- Two answers in turn do not put a text behind another one exactly if the first does not, and
neither does the second where the first ties them. -/
theorem then_ne_gt {answer later : Ordering} :
    answer.then later ≠ .gt ↔ answer ≠ .gt ∧ (answer = .eq → later ≠ .gt) := by
  cases answer <;> simp

namespace Circles

variable {α : Type} {x y z : α} {answer answer' answer'' : Ordering}

theorem rotate (circles : Circles answer answer' answer'') : Circles answer' answer'' answer :=
  ⟨circles.second, circles.third, circles.first,
    fun tied => circles.apart ⟨tied.2.2, tied.1, tied.2.1⟩⟩

/-- Elements of an order that stand in a circle are tied. -/
theorem tied_of_isLE (order : α → α → Ordering) [Std.TransCmp order] (first : order x y ≠ .gt)
    (second : order y z ≠ .gt) (third : order z x ≠ .gt) : order x y = .eq := by
  rw [ne_eq, ← Ordering.isLE_iff_ne_gt] at first second third
  have back := Std.TransCmp.isLE_trans second third
  exact Std.OrientedCmp.isLE_antisymm first back

/-- The answers of an order never make a circle. -/
theorem not_circles (order : α → α → Ordering) [Std.TransCmp order] :
    ¬Circles (order x y) (order y z) (order z x) := by
  rintro ⟨first, second, third, apart⟩
  exact apart ⟨tied_of_isLE order first second third, tied_of_isLE order second third first,
    tied_of_isLE order third first second⟩

/-- Behind an order there is a circle only for elements that the order leaves tied. -/
theorem behind (order : α → α → Ordering) [Std.TransCmp order]
    (circles : Circles ((order x y).then answer) ((order y z).then answer')
      ((order z x).then answer'')) :
    order x y = .eq ∧ order y z = .eq ∧ Circles answer answer' answer'' := by
  obtain ⟨first, second, third, apart⟩ := circles
  rw [then_ne_gt] at first second third
  have even := tied_of_isLE order first.1 second.1 third.1
  have even' := tied_of_isLE order second.1 third.1 first.1
  have even'' := tied_of_isLE order third.1 first.1 second.1
  refine ⟨even, even', first.2 even, second.2 even', third.2 even'', ?_⟩
  rw [even, even', even''] at apart
  exact apart

end Circles

/-- Whether two texts are both empty or both not, and both dashed or both not. -/
structure Alike (text text' : Text) : Prop where
  ends : text.isEmpty = text'.isEmpty
  dashes : isDashed text = isDashed text'

/-- Whether a text without a number stands between two texts with numbers that are the other way
round or tied by themselves. -/
inductive Torn (reverse : Bool) : Text → Text → Text → Prop where
  | here {first between last : Text} (alike : Alike first between) (alike' : Alike between last)
      (numbered : (FoundNumber.scan first).isSome = true) (plain : FoundNumber.scan between = none)
      (numbered' : (FoundNumber.scan last).isSome = true)
      (before : directed reverse (Text.naturalOrder first between) = .lt)
      (before' : directed reverse (Text.naturalOrder between last) = .lt)
      (back : order reverse first last ≠ .lt) : Torn reverse first between last
  | behind {first between last : Text} {number number' number'' : FoundNumber}
      (alike : Alike first between) (alike' : Alike between last)
      (found : FoundNumber.scan first = some number)
      (found' : FoundNumber.scan between = some number')
      (found'' : FoundNumber.scan last = some number'')
      (tied : Double.order number.low number'.low = .eq)
      (tied' : Double.order number'.low number''.low = .eq)
      (rests : Alike (first.drop number.length) (between.drop number'.length))
      (rests' : Alike (between.drop number'.length) (last.drop number''.length))
      (torn : Torn reverse (CellOrder.behind first number) (CellOrder.behind between number')
        (CellOrder.behind last number'')) : Torn reverse first between last

section Triples

variable {first between last : Text} {number'' : FoundNumber}

theorem Alike.trans (alike : Alike first between) (alike' : Alike between last) : Alike first last :=
  ⟨alike.ends.trans alike'.ends, alike.dashes.trans alike'.dashes⟩

theorem order_of_alike (alike : Alike text text') :
    order reverse text text' = orderAlike reverse (order reverse) text text' := by
  rw [order_eq, orderStep, alike.ends, alike.dashes, Std.ReflOrd.compare_self,
    Std.ReflOrd.compare_self, directed_eq]
  rfl

/-- Texts that begin with tied numbers are compared by what is behind these, if that is alike in
having characters and a dash. -/
theorem order_of_tied (alike : Alike text text') (found : FoundNumber.scan text = some number)
    (found' : FoundNumber.scan text' = some number')
    (tied : Double.order number.low number'.low = .eq)
    (rests : Alike (text.drop number.length) (text'.drop number'.length)) :
    order reverse text text' = order reverse (behind text number) (behind text' number') := by
  rw [order_of_alike alike, orderAlike_of_numbers found found', tied, orderRest, rests.ends,
    rests.dashes, Std.ReflOrd.compare_self, Std.ReflOrd.compare_self, directed_eq]
  rfl

/-- What stands in between puts two texts in one order, and they are not in that order. -/
theorem Torn.orders (torn : Torn reverse first between last) :
    order reverse first between = .lt ∧ order reverse between last = .lt ∧
      order reverse first last ≠ .lt := by
  induction torn with
  | here alike alike' _ plain _ before before' back =>
      refine ⟨?_, ?_, back⟩
      · rw [order_of_alike alike, orderAlike_of_text (.inr plain), before]
      · rw [order_of_alike alike', orderAlike_of_text (.inl plain), before']
  | behind alike alike' found found' found'' tied tied' rests rests' _ ih =>
      rw [order_of_tied alike found found' tied rests,
        order_of_tied alike' found' found'' tied' rests',
        order_of_tied (alike.trans alike') found found'' (Std.TransCmp.eq_trans tied tied')
          (rests.trans rests')]
      exact ih

theorem Alike.symm (alike : Alike first between) : Alike between first :=
  ⟨alike.ends.symm, alike.dashes.symm⟩

theorem directed_eq_iff {answer : Ordering} : directed reverse answer = .eq ↔ answer = .eq := by
  cases reverse <;> cases answer <;> decide

/-- A text between two numbers tears them if they stand in a circle. -/
theorem Torn.of_circles (alike : Alike first between) (alike' : Alike between last)
    (found : FoundNumber.scan first = some number) (plain : FoundNumber.scan between = none)
    (found' : FoundNumber.scan last = some number')
    (circles : Circles (orderAlike reverse (order reverse) first between)
      (orderAlike reverse (order reverse) between last)
      (orderAlike reverse (order reverse) last first)) : Torn reverse first between last := by
  have decided : ∀ {answer : Ordering}, answer ≠ .gt → answer ≠ .eq → answer = .lt := by
    intro answer above tied
    cases answer with
    | lt => rfl
    | eq => exact (tied rfl).elim
    | gt => exact (above rfl).elim
  obtain ⟨before, before', back, -⟩ := circles
  rw [orderAlike_of_text (.inr plain)] at before
  rw [orderAlike_of_text (.inl plain)] at before'
  rw [← order_of_alike (alike.trans alike').symm, order_swap, ne_eq, Ordering.swap_eq_gt] at back
  refine .here alike alike' (by rw [found]; rfl) plain (by rw [found']; rfl) (decided before ?_)
    (decided before' ?_) back
  · rw [ne_eq, directed_eq_iff]
    intro tied
    rw [Text.eq_of_naturalOrder tied, plain] at found
    cases found
  · rw [ne_eq, directed_eq_iff]
    intro tied
    rw [← Text.eq_of_naturalOrder tied, plain] at found'
    cases found'

/-- Texts of which one at most begins with a number do not stand in a circle. -/
theorem not_circles_of_text {next : Text → Text → Ordering}
    (plain : FoundNumber.scan first = none ∨ FoundNumber.scan between = none)
    (plain' : FoundNumber.scan between = none ∨ FoundNumber.scan last = none)
    (plain'' : FoundNumber.scan last = none ∨ FoundNumber.scan first = none) :
    ¬Circles (orderAlike reverse next first between) (orderAlike reverse next between last)
      (orderAlike reverse next last first) := by
  rw [orderAlike_of_text plain, orderAlike_of_text plain', orderAlike_of_text plain'']
  exact Circles.not_circles fun text text' => directed reverse (Text.naturalOrder text text')

/-- Three texts that begin with numbers stand in a circle only if the numbers are tied and what is
behind them stands in a circle. -/
theorem circles_behind {next : Text → Text → Ordering}
    (found : FoundNumber.scan first = some number)
    (found' : FoundNumber.scan between = some number')
    (found'' : FoundNumber.scan last = some number'')
    (circles : Circles (orderAlike reverse next first between)
      (orderAlike reverse next between last) (orderAlike reverse next last first)) :
    Double.order number.low number'.low = .eq ∧ Double.order number'.low number''.low = .eq ∧
      Alike (first.drop number.length) (between.drop number'.length) ∧
      Alike (between.drop number'.length) (last.drop number''.length) ∧
      Circles (next (behind first number) (behind between number'))
        (next (behind between number') (behind last number''))
        (next (behind last number'') (behind first number)) := by
  rw [orderAlike_of_numbers found found', orderAlike_of_numbers found' found'',
    orderAlike_of_numbers found'' found] at circles
  obtain ⟨lows, lows', circles⟩ := circles.behind fun low low' =>
    directed reverse (Double.order low low')
  obtain ⟨ends, ends', circles⟩ := circles.behind fun rest rest' =>
    directed reverse (compareOn List.isEmpty rest' rest)
  obtain ⟨dashes, dashes', circles⟩ := circles.behind fun rest rest' =>
    directed reverse (compareOn isDashed rest' rest)
  rw [directed_eq_iff] at lows lows' ends ends' dashes dashes'
  exact ⟨lows, lows',
    ⟨(Std.LawfulEqOrd.eq_of_compare ends).symm, (Std.LawfulEqOrd.eq_of_compare dashes).symm⟩,
    ⟨(Std.LawfulEqOrd.eq_of_compare ends').symm, (Std.LawfulEqOrd.eq_of_compare dashes').symm⟩,
    circles⟩

/-- Of three texts that stand in a circle, one tears the other two. -/
theorem exists_torn (circles : Circles (order reverse first between) (order reverse between last)
    (order reverse last first)) :
    Torn reverse first between last ∨ Torn reverse between last first ∨
      Torn reverse last first between := by
  induction rounds : first.length using Nat.strong_induction_on generalizing first between last with
  | _ length ih =>
      rw [order_eq, order_eq between, order_eq last] at circles
      obtain ⟨ends, ends', circles⟩ := circles.behind (compareOn List.isEmpty)
      obtain ⟨dashes, dashes', circles⟩ := circles.behind
        fun text text' => directed reverse (compareOn isDashed text' text)
      have alike : Alike first between :=
        ⟨Std.LawfulEqOrd.eq_of_compare ends,
          (Std.LawfulEqOrd.eq_of_compare (directed_eq_iff.mp dashes)).symm⟩
      have alike' : Alike between last :=
        ⟨Std.LawfulEqOrd.eq_of_compare ends',
          (Std.LawfulEqOrd.eq_of_compare (directed_eq_iff.mp dashes')).symm⟩
      have alike'' : Alike last first := (alike.trans alike').symm
      -- With two texts without a number all comparisons are natural, and there is no circle; one
      -- alone tears the others; and behind three numbers there is a circle again.
      cases found : FoundNumber.scan first with
      | none =>
          cases found' : FoundNumber.scan between with
          | none =>
              exact (not_circles_of_text (.inl found) (.inl found') (.inr found) circles).elim
          | some number' =>
              cases found'' : FoundNumber.scan last with
              | none =>
                  exact (not_circles_of_text (.inl found) (.inr found'') (.inr found)
                    circles).elim
              | some number'' =>
                  exact .inr (.inr (.of_circles alike'' alike found'' found found'
                    circles.rotate.rotate))
      | some number =>
          cases found' : FoundNumber.scan between with
          | none =>
              cases found'' : FoundNumber.scan last with
              | none =>
                  exact (not_circles_of_text (.inr found') (.inl found') (.inl found'')
                    circles).elim
              | some number'' => exact .inl (.of_circles alike alike' found found' found'' circles)
          | some number' =>
              cases found'' : FoundNumber.scan last with
              | none =>
                  exact .inr (.inl (.of_circles alike' alike'' found' found'' found
                    circles.rotate))
              | some number'' =>
                  obtain ⟨tied, tied', rests, rests', circles⟩ :=
                    circles_behind found found' found'' circles
                  have tied'' := Std.OrientedCmp.eq_symm (Std.TransCmp.eq_trans tied tied')
                  have rests'' := (rests.trans rests').symm
                  have shorter := rounds ▸ length_behind_lt found
                  rcases ih _ shorter circles rfl with torn | torn | torn
                  · exact .inl (.behind alike alike' found found' found'' tied tied' rests rests'
                      torn)
                  · exact .inr (.inl (.behind alike' alike'' found' found'' found tied' tied''
                      rests' rests'' torn))
                  · exact .inr (.inr (.behind alike'' alike found'' found found' tied'' tied
                      rests'' rests torn))

/-- Where the order is not transitive, one of the three texts tears the other two. -/
theorem exists_torn_of_not_trans (before : order reverse first between ≠ .gt)
    (before' : order reverse between last ≠ .gt) (above : order reverse first last = .gt) :
    Torn reverse first between last ∨ Torn reverse between last first ∨
      Torn reverse last first between := by
  have back : order reverse last first = .lt := by
    rw [order_swap first, above]
    rfl
  refine exists_torn ⟨before, before', by rw [back]; exact Ordering.noConfusion, ?_⟩
  rintro ⟨-, -, tied⟩
  rw [back] at tied
  cases tied

/-- Where a text tears two others, the order is not transitive. -/
theorem Torn.not_trans (torn : Torn reverse first between last) :
    order reverse last first ≠ .gt ∧ order reverse first between ≠ .gt ∧
      order reverse last between = .gt := by
  obtain ⟨before, before', back⟩ := torn.orders
  rw [order_swap first last, order_swap between last, before, before', ne_eq, Ordering.swap_eq_gt]
  exact ⟨back, Ordering.noConfusion, rfl⟩

/-- Among texts none of which tears two others, the order is transitive. -/
theorem ordersAmong_of_not_torn {texts : List Text} (calm : ∀ first ∈ texts, ∀ between ∈ texts,
      ∀ last ∈ texts, ¬Torn reverse first between last) :
    Sorting.OrdersAmong (order reverse) texts where
  swap text _ text' _ := order_swap text text'
  trans a member b member' c member'' before before' above := by
    rcases exists_torn_of_not_trans before before' above with torn | torn | torn
    · exact calm a member b member' c member'' torn
    · exact calm b member' c member'' a member torn
    · exact calm c member'' a member b member' torn

end Triples

/-- **Transitivity.** The order of cells is transitive on some texts exactly if none of them tears two
others.  Then sorting by it gives the stable order of the texts, in which none stands behind a later
one. -/
theorem order_trans_iff (reverse : Bool) (texts : List Text) :
    ((∀ a ∈ texts, ∀ b ∈ texts, ∀ c ∈ texts, order reverse a b ≠ .gt → order reverse b c ≠ .gt →
        order reverse a c ≠ .gt) ↔
      ∀ first ∈ texts, ∀ between ∈ texts, ∀ last ∈ texts, ¬Torn reverse first between last) ∧
    ((∀ first ∈ texts, ∀ between ∈ texts, ∀ last ∈ texts, ¬Torn reverse first between last) →
      Sorting.IsStableOrder (order reverse) texts
        (Sorting.sort (fun text text' => order reverse text text' == .lt) texts)) := by
  refine ⟨⟨?_, fun calm => (ordersAmong_of_not_torn calm).trans⟩,
    fun calm => Sorting.sort_isStableOrder (ordersAmong_of_not_torn calm)⟩
  intro trans first member between member' last member'' torn
  obtain ⟨before, before', above⟩ := torn.not_trans
  exact trans last member'' first member between member' before before' above

/-- `.5` stands before `/` and `/` before `0.1`, but not `.5` before `0.1`. -/
theorem not_trans_of_slash :
    let texts : List Text := [['.', '5'], ['/'], ['0', '.', '1']]
    order false ['.', '5'] ['/'] = .lt ∧ order false ['/'] ['0', '.', '1'] = .lt ∧
      order false ['.', '5'] ['0', '.', '1'] = .gt ∧
      ¬∀ a ∈ texts, ∀ b ∈ texts, ∀ c ∈ texts, order false a b ≠ .gt → order false b c ≠ .gt →
        order false a c ≠ .gt := by
  intro texts
  refine ⟨by decide +kernel, by decide +kernel, by decide +kernel, ?_⟩
  rw [(order_trans_iff false texts).1]
  intro calm
  refine calm ['.', '5'] (by decide) ['/'] (by decide) ['0', '.', '1'] (by decide) ?_
  exact .here ⟨rfl, rfl⟩ ⟨rfl, rfl⟩ (by decide +kernel) (by decide +kernel) (by decide +kernel)
    (by decide +kernel) (by decide +kernel) (by decide +kernel)

end CellOrder

end TableSearch
