import TableSearch.Proofs.Table.CellOrder

/-! # Both sides and both directions of a comparison

`TableSearch.CellOrder.orderCells_spec`: a comparison of cells ends for every two cells, is the same
from both sides, and ties a cell with itself.  The comparison is described once more without a bound
on its steps (`TableSearch.CellOrder.Compares`): it goes on behind equal numbers, with texts that
are shorter.

`TableSearch.CellOrder.order_descending_iff`: the descending order of two texts is the ascending one
turned around exactly if the comparison does not strand on a dash (`TableSearch.CellOrder.Strands`).
What stands last in both directions is meant to be a cell without text, but what is left of `5-` and
`5-3` behind the dashes is compared like two cells, and one of them is empty.
-/

namespace TableSearch

namespace CellOrder

/-! ## The run of a comparison -/

/-- Whether two texts are compared by what they say: both have characters, both have a dash in front
or neither has, and they differ. -/
structure Contends (text text' : Text) : Prop where
  filled : text ≠ []
  filled' : text' ≠ []
  dashes : isDashed text = isDashed text'
  differs : text ≠ text'

/-- The comparison of two cells with its answer.  There is one rule for each way in which a
comparison ends, and one for the way in which it goes on: behind equal numbers, with what is left of
both texts. So a comparison that does not end has no answer. -/
inductive Compares (reverse : Bool) : Option Text → Option Text → Ordering → Prop where
  | bothMissing : Compares reverse none none .eq
  | firstMissing (text' : Text) : Compares reverse none (some text') .gt
  | secondMissing (text : Text) : Compares reverse (some text) none .lt
  | bothEmpty : Compares reverse (some []) (some []) .eq
  | firstEmpty {text' : Text} (filled : text' ≠ []) : Compares reverse (some []) (some text') .gt
  | secondEmpty {text : Text} (filled : text ≠ []) : Compares reverse (some text) (some []) .lt
  | firstDashed {text text' : Text} (filled : text' ≠ []) (dashed : isDashed text = true)
      (plain : isDashed text' = false) :
      Compares reverse (some text) (some text') (directed reverse .lt)
  | secondDashed {text text' : Text} (filled : text ≠ []) (plain : isDashed text = false)
      (dashed : isDashed text' = true) :
      Compares reverse (some text) (some text') (directed reverse .gt)
  | same {text : Text} (filled : text ≠ []) : Compares reverse (some text) (some text) .eq
  | byText {text text' : Text} (contends : Contends text text')
      (absent : FoundNumber.scan text = none ∨ FoundNumber.scan text' = none) :
      Compares reverse (some text) (some text') (directed reverse (Text.naturalOrder text text'))
  | byNumber {text text' : Text} {number number' : FoundNumber} (contends : Contends text text')
      (found : FoundNumber.scan text = some number) (found' : FoundNumber.scan text' = some number')
      (apart : Double.order number.low number'.low ≠ .eq) :
      Compares reverse (some text) (some text')
        (directed reverse (Double.order number.low number'.low))
  | byEnd {text text' : Text} {number number' : FoundNumber} (contends : Contends text text')
      (found : FoundNumber.scan text = some number) (found' : FoundNumber.scan text' = some number')
      (tied : Double.order number.low number'.low = .eq)
      (ends : text.drop number.length = [] ∨ text'.drop number'.length = []) :
      Compares reverse (some text) (some text')
        (directed reverse (compare (text'.drop number'.length).isEmpty
          (text.drop number.length).isEmpty))
  | behind {text text' rest rest' : Text} {number number' : FoundNumber} {answer : Ordering}
      (contends : Contends text text') (found : FoundNumber.scan text = some number)
      (found' : FoundNumber.scan text' = some number')
      (tied : Double.order number.low number'.low = .eq)
      (goes : text.drop number.length ≠ []) (goes' : text'.drop number'.length ≠ [])
      (left : dropSharedDash (text.drop number.length) (text'.drop number'.length) = (rest, rest'))
      (later : Compares reverse (some rest) (some rest') answer) :
      Compares reverse (some text) (some text') answer

variable {reverse : Bool} {text text' : Text} {number number' : FoundNumber} {answer : Ordering}

theorem Contends.alike (contends : Contends text text') : Alike text text' where
  ends := by
    rw [List.isEmpty_eq_false_iff.mpr contends.filled,
      List.isEmpty_eq_false_iff.mpr contends.filled']
  dashes := contends.dashes

/-- Texts that go on behind equal numbers are ordered by what is left of them. -/
theorem orderRest_of_goes {rest rest' left left' : Text} (goes : rest ≠ []) (goes' : rest' ≠ [])
    (known : dropSharedDash rest rest' = (left, left')) :
    orderRest reverse (order reverse) rest rest' = order reverse left left' := by
  rw [orderRest, List.isEmpty_eq_false_iff.mpr goes, List.isEmpty_eq_false_iff.mpr goes',
    Std.ReflOrd.compare_self, directed_eq, Ordering.eq_then]
  by_cases same : isDashed rest = isDashed rest'
  · rw [dropSharedDash_of_same same, Prod.mk.injEq] at known
    rw [same, Std.ReflOrd.compare_self, directed_eq, Ordering.eq_then, known.1, known.2]
  · rw [dropSharedDash_of_differs same, Prod.mk.injEq] at known
    rw [← known.1, ← known.2, directed_then (compare_ne_eq (Ne.symm same))]
    exact (orderFrom_of_dashes goes goes' same).symm

/-- Equal numbers at the end of one of the texts decide by which of them ends. -/
theorem orderRest_of_ends {rest rest' : Text} (ends : rest = [] ∨ rest' = []) :
    orderRest reverse (order reverse) rest rest' =
      directed reverse (compare rest'.isEmpty rest.isEmpty) := by
  by_cases both : rest.isEmpty = rest'.isEmpty
  · have none : rest = rest' := by
      rcases ends with rfl | rfl
      · exact (List.isEmpty_iff.mp both.symm).symm
      · exact List.isEmpty_iff.mp both
    rw [none, orderRest_self order_self, Std.ReflOrd.compare_self, directed_eq]
  · rw [orderRest, directed_then (compare_ne_eq (Ne.symm both))]

/-- Two different texts that begin with numbers are compared by these, and by what is left behind
them if they are tied. -/
theorem order_of_numbers (contends : Contends text text')
    (found : FoundNumber.scan text = some number) (found' : FoundNumber.scan text' = some number') :
    order reverse text text' =
      (directed reverse (Double.order number.low number'.low)).then (orderRest reverse
        (order reverse) (text.drop number.length) (text'.drop number'.length)) := by
  rw [order_of_alike contends.alike, orderAlike_of_numbers found found']

/-- The answer that the rules give is that of the comparison. -/
theorem Compares.orderCells_eq {cell cell' : Option Text}
    (compares : Compares reverse cell cell' answer) : orderCells reverse cell cell' = answer := by
  induction compares with
  | bothMissing => rfl
  | firstMissing text' => rfl
  | secondMissing text => rfl
  | bothEmpty => rfl
  | firstEmpty filled =>
      rename_i text'
      change order reverse [] text' = .gt
      rw [order_eq, orderStep, List.isEmpty_eq_false_iff.mpr filled]
      rfl
  | secondEmpty filled =>
      rename_i text
      change order reverse text [] = .lt
      rw [order_eq, orderStep, List.isEmpty_eq_false_iff.mpr filled]
      rfl
  | firstDashed filled dashed plain =>
      obtain ⟨rest, rfl⟩ := exists_of_isDashed dashed
      refine (orderFrom_of_dashes (List.cons_ne_nil _ _) filled ?_).trans ?_
      · rw [dashed, plain]
        exact Bool.noConfusion
      · rw [dashed, plain]
        rfl
  | secondDashed filled plain dashed =>
      obtain ⟨rest, rfl⟩ := exists_of_isDashed dashed
      refine (orderFrom_of_dashes filled (List.cons_ne_nil _ _) ?_).trans ?_
      · rw [dashed, plain]
        exact Bool.noConfusion
      · rw [dashed, plain]
        rfl
  | same => exact order_self _
  | byText contends absent =>
      exact (order_of_alike contends.alike).trans (orderAlike_of_text absent)
  | byNumber contends found found' apart =>
      exact (order_of_numbers contends found found').trans (directed_then apart)
  | byEnd contends found found' tied ends =>
      refine (order_of_numbers contends found found').trans ?_
      rw [tied, directed_eq, Ordering.eq_then, orderRest_of_ends ends]
  | behind contends found found' tied goes goes' left later ih =>
      refine (order_of_numbers contends found found').trans ?_
      rw [tied, directed_eq, Ordering.eq_then, orderRest_of_goes goes goes' left]
      exact ih

/-- What is left of a text behind its number, without a shared dash, is shorter than the text. -/
theorem length_left_lt {rest rest' : Text} (found : FoundNumber.scan text = some number)
    (left : dropSharedDash (text.drop number.length) (text'.drop number'.length) = (rest, rest')) :
    rest.length < text.length := by
  have shorter := length_behind_lt found
  by_cases same : isDashed (text.drop number.length) = isDashed (text'.drop number'.length)
  · rw [dropSharedDash_of_same same, Prod.mk.injEq] at left
    rwa [← left.1]
  · rw [dropSharedDash_of_differs same, Prod.mk.injEq] at left
    have taken := FoundNumber.scan_length_pos found
    have filled : text ≠ [] := by
      rintro rfl
      cases found
    rw [← left.1, List.length_drop]
    exact Nat.sub_lt (List.length_pos_iff.mpr filled) taken

/-- Two texts that contend have an answer if all pairs with a shorter first text have one. -/
theorem Contends.exists_compares (contends : Contends text text')
    (shorter : ∀ rest rest' : Text, rest.length < text.length →
      ∃ answer, Compares reverse (some rest) (some rest') answer) :
    ∃ answer, Compares reverse (some text) (some text') answer := by
  cases found : FoundNumber.scan text with
  | none => exact ⟨_, .byText contends (.inl found)⟩
  | some number =>
      cases found' : FoundNumber.scan text' with
      | none => exact ⟨_, .byText contends (.inr found')⟩
      | some number' =>
          by_cases tied : Double.order number.low number'.low = .eq
          · by_cases ends : text.drop number.length = [] ∨ text'.drop number'.length = []
            · exact ⟨_, .byEnd contends found found' tied ends⟩
            · rw [not_or] at ends
              obtain ⟨⟨rest, rest'⟩, left⟩ : ∃ left,
                  dropSharedDash (text.drop number.length) (text'.drop number'.length) = left :=
                ⟨_, rfl⟩
              obtain ⟨answer, later⟩ := shorter rest rest' (length_left_lt found left)
              exact ⟨answer, .behind contends found found' tied ends.1 ends.2 left later⟩
          · exact ⟨_, .byNumber contends found found' tied⟩

/-- The rules give an answer for every two texts. -/
theorem exists_compares_texts (text text' : Text) :
    ∃ answer, Compares reverse (some text) (some text') answer := by
  induction size : text.length using Nat.strong_induction_on generalizing text text' with
  | _ size ih =>
      by_cases filled : text = []
      · by_cases filled' : text' = []
        · rw [filled, filled']
          exact ⟨_, .bothEmpty⟩
        · rw [filled]
          exact ⟨_, .firstEmpty filled'⟩
      · by_cases filled' : text' = []
        · rw [filled']
          exact ⟨_, .secondEmpty filled⟩
        · by_cases dashes : isDashed text = isDashed text'
          · by_cases equal : text = text'
            · rw [← equal]
              exact ⟨_, .same filled⟩
            · have contends : Contends text text' := ⟨filled, filled', dashes, equal⟩
              exact contends.exists_compares fun rest rest' less =>
                ih _ (size ▸ less) rest rest' rfl
          · cases dashed : isDashed text with
            | true =>
                rw [dashed, eq_comm, Bool.not_eq_true] at dashes
                exact ⟨_, .firstDashed filled' dashed dashes⟩
            | false =>
                rw [dashed, eq_comm, Bool.not_eq_false] at dashes
                exact ⟨_, .secondDashed filled dashed dashes⟩

/-- Every comparison has an answer: the texts that it goes on with are shorter. -/
theorem exists_compares (cell cell' : Option Text) :
    ∃ answer, Compares reverse cell cell' answer := by
  cases cell with
  | none =>
      cases cell' with
      | none => exact ⟨_, .bothMissing⟩
      | some text' => exact ⟨_, .firstMissing text'⟩
  | some text =>
      cases cell' with
      | none => exact ⟨_, .secondMissing text⟩
      | some text' => exact exists_compares_texts text text'

/-- The rules give exactly the answer of the comparison. -/
theorem compares_iff (cell cell' : Option Text) :
    Compares reverse cell cell' answer ↔ orderCells reverse cell cell' = answer := by
  constructor
  · exact Compares.orderCells_eq
  · intro known
    obtain ⟨answer', compares⟩ := exists_compares cell cell'
    rwa [← known, compares.orderCells_eq]

/-- **Both sides.** A comparison of two cells ends with one answer, which is that of the order; from
the other side it is the same turned around; and a cell is tied with itself. -/
theorem orderCells_spec (reverse : Bool) (cell cell' : Option Text) :
    (∀ answer, Compares reverse cell cell' answer ↔ answer = orderCells reverse cell cell') ∧
      orderCells reverse cell cell' = (orderCells reverse cell' cell).swap ∧
      orderCells reverse cell cell = .eq := by
  refine ⟨fun answer => (compares_iff cell cell').trans eq_comm, ?_, ?_⟩
  · cases cell with
    | none => cases cell' <;> rfl
    | some text =>
        cases cell' with
        | none => rfl
        | some text' => exact order_swap text' text
  · cases cell with
    | none => rfl
    | some text => exact order_self text

/-! ## The two directions -/

/-- Whether the comparison of two texts strands on a dash: behind some equal numbers, both go on
with a dash, and only one of them has something behind it. -/
inductive Strands : Text → Text → Prop where
  | first {text text' rest : Text} {number number' : FoundNumber} {c : Char}
      (alike : Alike text text') (found : FoundNumber.scan text = some number)
      (found' : FoundNumber.scan text' = some number')
      (tied : Double.order number.low number'.low = .eq)
      (ends : text.drop number.length = ['-'])
      (goes : text'.drop number'.length = '-' :: c :: rest) :
      Strands text text'
  | second {text text' rest : Text} {number number' : FoundNumber} {c : Char}
      (alike : Alike text text') (found : FoundNumber.scan text = some number)
      (found' : FoundNumber.scan text' = some number')
      (tied : Double.order number.low number'.low = .eq)
      (goes : text.drop number.length = '-' :: c :: rest)
      (ends : text'.drop number'.length = ['-']) :
      Strands text text'
  | behind {text text' : Text} {number number' : FoundNumber}
      (alike : Alike text text') (found : FoundNumber.scan text = some number)
      (found' : FoundNumber.scan text' = some number')
      (tied : Double.order number.low number'.low = .eq)
      (rests : Alike (text.drop number.length) (text'.drop number'.length))
      (later : Strands (CellOrder.behind text number) (CellOrder.behind text' number')) :
      Strands text text'

/-- A comparison that strands has an answer other than a tie, the same in both directions. -/
theorem Strands.order_eq (strands : Strands text text') :
    ∃ answer, answer ≠ .eq ∧ ∀ reverse, order reverse text text' = answer := by
  induction strands with
  | first alike found found' tied ends goes =>
      refine ⟨.gt, Ordering.noConfusion, fun reverse => ?_⟩
      rw [order_of_tied alike found found' tied (by rw [ends, goes]; exact ⟨rfl, rfl⟩),
        CellOrder.behind, CellOrder.behind, ends, goes]
      rfl
  | second alike found found' tied goes ends =>
      refine ⟨.lt, Ordering.noConfusion, fun reverse => ?_⟩
      rw [order_of_tied alike found found' tied (by rw [ends, goes]; exact ⟨rfl, rfl⟩),
        CellOrder.behind, CellOrder.behind, ends, goes]
      rfl
  | behind alike found found' tied rests later ih =>
      obtain ⟨answer, decided, known⟩ := ih
      refine ⟨answer, decided, fun reverse => ?_⟩
      rw [order_of_tied alike found found' tied rests]
      exact known reverse

theorem directed_true (answer : Ordering) : directed true answer = (directed false answer).swap :=
  rfl

/-- What is left of a dash and more is empty only if there is no more. -/
theorem eq_of_dropDash_eq_nil {rest : Text} (filled : rest ≠ []) (ends : dropDash rest = []) :
    rest = ['-'] := by
  unfold dropDash at ends
  split at ends
  · rw [ends]
  · exact (filled ends).elim

/-- A text that goes on behind its dash has a character there. -/
theorem exists_of_dropDash_ne_nil {rest : Text} (dashed : isDashed rest = true)
    (goes : dropDash rest ≠ []) : ∃ c more, rest = '-' :: c :: more := by
  obtain ⟨more, rfl⟩ := exists_of_isDashed dashed
  obtain ⟨c, more, rfl⟩ := List.exists_cons_of_ne_nil goes
  exact ⟨c, more, rfl⟩

/-- Behind equal numbers, a comparison that does not strand goes on with two texts or with none. -/
theorem isEmpty_behind_of_not_strands (alike : Alike text text')
    (found : FoundNumber.scan text = some number) (found' : FoundNumber.scan text' = some number')
    (tied : Double.order number.low number'.low = .eq)
    (rests : Alike (text.drop number.length) (text'.drop number'.length))
    (free : ¬Strands text text') :
    (behind text number).isEmpty = (behind text' number').isEmpty := by
  by_contra differs
  have filled : text.drop number.length ≠ [] := by
    intro ends
    have ends' := rests.ends
    rw [ends, eq_comm, List.isEmpty_nil, List.isEmpty_iff] at ends'
    rw [behind, behind, ends, ends'] at differs
    exact differs rfl
  have filled' : text'.drop number'.length ≠ [] := by
    have ends := rests.ends
    rwa [List.isEmpty_eq_false_iff.mpr filled, eq_comm, List.isEmpty_eq_false_iff] at ends
  cases ends : (behind text number).isEmpty with
  | true =>
      rw [ends, eq_comm, Bool.not_eq_true, List.isEmpty_eq_false_iff] at differs
      have single := eq_of_dropDash_eq_nil filled (List.isEmpty_iff.mp ends)
      have dashed := rests.dashes
      rw [single] at dashed
      obtain ⟨c, more, goes⟩ := exists_of_dropDash_ne_nil dashed.symm differs
      exact free (.first alike found found' tied single goes)
  | false =>
      rw [ends, eq_comm, Bool.not_eq_false, List.isEmpty_iff] at differs
      have single := eq_of_dropDash_eq_nil filled' differs
      have dashed := rests.dashes
      rw [single] at dashed
      obtain ⟨c, more, goes⟩ := exists_of_dropDash_ne_nil dashed (List.isEmpty_eq_false_iff.mp ends)
      exact free (.second alike found found' tied goes single)

/-- Every criterion before what is left behind equal numbers is turned around with the direction. -/
theorem orderAlike_descending (later : ∀ number number', FoundNumber.scan text = some number →
      FoundNumber.scan text' = some number' → Double.order number.low number'.low = .eq →
      Alike (text.drop number.length) (text'.drop number'.length) →
      order true (behind text number) (behind text' number') =
        (order false (behind text number) (behind text' number')).swap) :
    orderAlike true (order true) text text' = (orderAlike false (order false) text text').swap := by
  cases found : FoundNumber.scan text with
  | none => rw [orderAlike_of_text (.inl found), orderAlike_of_text (.inl found), directed_true]
  | some number =>
      cases found' : FoundNumber.scan text' with
      | none =>
          rw [orderAlike_of_text (.inr found'), orderAlike_of_text (.inr found'), directed_true]
      | some number' =>
          rw [orderAlike_of_numbers found found', orderAlike_of_numbers found found', orderRest,
            orderRest, Ordering.swap_then, Ordering.swap_then, Ordering.swap_then, ← directed_true,
            ← directed_true, ← directed_true]
          by_cases tied : Double.order number.low number'.low = .eq
          · by_cases ends : (text.drop number.length).isEmpty = (text'.drop number'.length).isEmpty
            · by_cases dashes :
                  isDashed (text.drop number.length) = isDashed (text'.drop number'.length)
              · congr 3
                exact later number number' found found' tied ⟨ends, dashes⟩
              · rw [directed_then (compare_ne_eq (Ne.symm dashes)),
                  directed_then (compare_ne_eq (Ne.symm dashes))]
            · rw [directed_then (compare_ne_eq (Ne.symm ends)),
                directed_then (compare_ne_eq (Ne.symm ends))]
          · rw [directed_then tied, directed_then tied]

/-- The descending order of two texts that are both empty or both not is the ascending one turned
around, if the comparison does not strand on a dash. -/
theorem order_descending_of_not_strands (ends : text.isEmpty = text'.isEmpty)
    (free : ¬Strands text text') : order true text text' = (order false text text').swap := by
  -- Nothing may be left of both texts behind equal numbers: the induction carries `ends`, not that
  -- there are characters.
  induction size : text.length using Nat.strong_induction_on generalizing text text' with
  | _ size ih =>
      by_cases dashes : isDashed text = isDashed text'
      · have alike : Alike text text' := ⟨ends, dashes⟩
        rw [order_of_alike alike, order_of_alike alike]
        apply orderAlike_descending
        intro number number' found found' tied rests
        apply ih _ (size ▸ length_behind_lt found)
          (isEmpty_behind_of_not_strands alike found found' tied rests free) _ rfl
        intro later
        exact free (.behind alike found found' tied rests later)
      · rw [order_eq, order_eq text, orderStep, orderStep, ends, Std.ReflOrd.compare_self,
          Ordering.eq_then, Ordering.eq_then, directed_then (compare_ne_eq (Ne.symm dashes)),
          directed_then (compare_ne_eq (Ne.symm dashes)), directed_true]

/-- **Both directions.** Of two texts, the descending order is the ascending one turned around
exactly if their comparison does not strand on a dash. -/
theorem order_descending_iff (filled : text ≠ []) (filled' : text' ≠ []) :
    orderCells true (some text) (some text') = (orderCells false (some text) (some text')).swap ↔
      ¬Strands text text' := by
  change order true text text' = (order false text text').swap ↔ _
  constructor
  · intro turned strands
    obtain ⟨answer, decided, known⟩ := strands.order_eq
    rw [known, known] at turned
    cases answer with
    | lt => cases turned
    | eq => exact decided rfl
    | gt => cases turned
  · apply order_descending_of_not_strands
    rw [List.isEmpty_eq_false_iff.mpr filled, List.isEmpty_eq_false_iff.mpr filled']

/-- `5-` stands behind `5-3` in both directions. -/
theorem not_descending_of_dash :
    (['5', '-'] : Text) ≠ [] ∧ (['5', '-', '3'] : Text) ≠ [] ∧
      orderCells false (some ['5', '-']) (some ['5', '-', '3']) = .gt ∧
      orderCells true (some ['5', '-']) (some ['5', '-', '3']) = .gt ∧
      orderCells true (some ['5', '-']) (some ['5', '-', '3']) ≠
        (orderCells false (some ['5', '-']) (some ['5', '-', '3'])).swap := by
  have filled : (['5', '-'] : Text) ≠ [] := List.cons_ne_nil _ _
  have filled' : (['5', '-', '3'] : Text) ≠ [] := List.cons_ne_nil _ _
  refine ⟨filled, filled', by decide +kernel, by decide +kernel, ?_⟩
  rw [ne_eq, order_descending_iff filled filled', not_not]
  let number : FoundNumber :=
    ⟨.finite false 5066549580791808 (-50), .finite false 6192449487634432 (-50), 1⟩
  have found : FoundNumber.scan ['5', '-'] = some number := by decide +kernel
  have found' : FoundNumber.scan ['5', '-', '3'] = some number := by decide +kernel
  exact .first ⟨rfl, rfl⟩ found found' (Double.order_self _) rfl rfl

end CellOrder

end TableSearch
