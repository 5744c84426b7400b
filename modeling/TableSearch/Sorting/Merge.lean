/-! # Merging ordered lists

Two lists that are in order are merged one element at a time, until one of them has given the next
element so often in a row that it pays to look ahead: then the place up to which it gives all
elements is sought, with steps that double and after them by halving, and these elements are taken
together.  How often in a row that has to be is the *patience* of a merge.  It falls while looking
ahead pays and rises when it does not.

For comparisons that are no order the result is still determined: it depends on the answers to the
questions that are asked.
-/

namespace TableSearch

namespace Sorting

variable {α : Type}

/-! ## Places in a list -/

/-- The place between two bounds, found by halving, before which the elements stay. -/
def place (stays : α → Bool) (list : List α) (low high : Nat) : Nat → Nat
  | 0 => low
  | rounds + 1 =>
    if low < high then
      let middle := low + (high - low) / 2
      match list[middle]? with
      | some x =>
        if stays x then place stays list (middle + 1) high rounds
        else place stays list low middle rounds
      | none => low
    else low

/-- Two steps between which a question is first denied, if it is at all below the limit: the steps
double, and it holds at the first of the two. -/
def stride (holds : Nat → Bool) (limit last step : Nat) : Nat → Nat × Nat
  | 0 => (last, limit)
  | rounds + 1 =>
    if step < limit then
      if holds step then stride holds limit step (2 * step + 1) rounds else (last, step)
    else (last, limit)

/-- The place before which the elements of a list stay, sought from another place outwards. -/
def gallop (stays : α → Bool) (list : List α) (hint : Nat) : Nat :=
  let staysAt (index : Nat) : Bool := list[index]?.any stays
  let (low, high) :=
    if staysAt hint then
      let (last, step) :=
        stride (fun step => staysAt (hint + step)) (list.length - hint) 0 1 list.length
      (hint + last + 1, hint + step)
    else
      let (last, step) := stride (fun step => !staysAt (hint - step)) (hint + 1) 0 1 list.length
      (hint + 1 - step, hint - last)
  place stays list low high (list.length + 1)

/-! ## Merging -/

/-- How two lists are merged. -/
structure Contest (α : Type) where
  /-- Whether the head of the second list comes before that of the first. -/
  secondWins : α → α → Bool
  /-- How many elements of the first list come before one of the second. -/
  leadFirst : List α → α → Nat
  /-- How many elements of the second list come before one of the first. -/
  leadSecond : List α → α → Nat
  /-- Whether looking ahead begins with the first list. -/
  firstLeads : Bool

/-- A contest of an earlier list with a later one, from the start of both. -/
def Contest.upward (below : α → α → Bool) : Contest α where
  secondWins x y := below y x
  leadFirst first y := gallop (fun x => !below y x) first 0
  leadSecond second x := gallop (fun y => below y x) second 0
  firstLeads := true

/-- A contest of a later list with an earlier one, both turned around. -/
def Contest.downward (below : α → α → Bool) : Contest α where
  secondWins x y := below x y
  leadFirst first y :=
    first.length - gallop (fun x => below x y) first.reverse (first.length - 1)
  leadSecond second x :=
    second.length - gallop (fun y => !below x y) second.reverse (second.length - 1)
  firstLeads := false

/-- What looking ahead comes to. -/
inductive Advance (α : Type) where
  /-- One of the lists is used up. -/
  | finished (merged : List α)
  /-- The elements that were taken, what is left of both lists, and the longest lead of one. -/
  | onward (taken first second : List α) (lead : Nat)

/-- How a merge goes on: with single elements, or looking ahead. -/
inductive Pace where
  /-- How often in a row each list has given the next element. -/
  | stepping (first second : Nat)
  | galloping

namespace Contest

variable (contest : Contest α)

/-- The elements of the first list before the head of the second, and that head.  The last element
of the first list comes behind the second list. -/
def advanceFirst (first second : List α) : Advance α :=
  match second with
  | [] => .finished first
  | y :: later =>
    let lead := contest.leadFirst first y
    match first.drop lead with
    | [] => .finished (first.take lead ++ second)
    | [x] => .finished (first.take lead ++ second ++ [x])
    | rest =>
      if later.isEmpty then .finished (first.take lead ++ y :: rest)
      else .onward (first.take lead ++ [y]) rest later lead

/-- The elements of the second list before the head of the first, and that head.  The last element
of the first list comes behind the second list. -/
def advanceSecond (first second : List α) : Advance α :=
  match first with
  | [] => .finished second
  | x :: later =>
    let lead := contest.leadSecond second x
    match second.drop lead with
    | [] => .finished (second.take lead ++ first)
    | rest =>
      match later with
      | [last] => .finished (second.take lead ++ x :: rest ++ [last])
      | _ => .onward (second.take lead ++ [x]) later rest lead

/-- One advance after another. -/
def andThen (advance : Advance α) (next : List α → List α → Advance α) : Advance α :=
  match advance with
  | .finished merged => .finished merged
  | .onward taken first second lead =>
    match next first second with
    | .finished merged => .finished (taken ++ merged)
    | .onward more first second lead' => .onward (taken ++ more) first second (max lead lead')

/-- An advance in each of the lists. -/
def advance (first second : List α) : Advance α :=
  if contest.firstLeads then andThen (contest.advanceFirst first second) contest.advanceSecond
  else andThen (contest.advanceSecond first second) contest.advanceFirst

/-- The lead from which looking ahead pays. -/
def worthwhile : Nat := 7

/-- The elements of two lists merged, and the patience that is left.  The last element of the first
list comes behind the second list. -/
def merge : Nat → Nat → Pace → List α → List α → List α × Nat
  | rounds + 1, patience, .stepping wins wins', x :: first, y :: second =>
    if contest.secondWins x y then
      if second.isEmpty then (y :: x :: first, patience)
      else
        let (merged, patience) :=
          if patience ≤ wins' + 1 then merge rounds (patience + 1) .galloping (x :: first) second
          else merge rounds patience (.stepping 0 (wins' + 1)) (x :: first) second
        (y :: merged, patience)
    else
      match first with
      | [last] => (x :: y :: second ++ [last], patience)
      | _ =>
        let (merged, patience) :=
          if patience ≤ wins + 1 then merge rounds (patience + 1) .galloping first (y :: second)
          else merge rounds patience (.stepping (wins + 1) 0) first (y :: second)
        (x :: merged, patience)
  | rounds + 1, patience, .galloping, first, second =>
    let patience := if 1 < patience then patience - 1 else patience
    match contest.advance first second with
    | .finished merged => (merged, patience)
    | .onward taken first second lead =>
      let (merged, patience) :=
        if worthwhile ≤ lead then merge rounds patience .galloping first second
        else merge rounds (patience + 1) (.stepping 0 0) first second
      (taken ++ merged, patience)
  | _, patience, _, first, second => (first ++ second, patience)

/-- Two lists merged where the head of the second comes first and the last element of the first
comes last. -/
def mergeFrom (patience : Nat) (first : List α) : List α → List α × Nat
  | [] => (first, patience)
  | y :: second =>
    if second.isEmpty then (y :: first, patience)
    else
      match first with
      | [last] => (y :: second ++ [last], patience)
      | _ =>
        let (merged, patience) :=
          contest.merge (first.length + second.length) patience (.stepping 0 0) first second
        (y :: merged, patience)

end Contest

/-- Two lists merged where the head of the later comes first and the last element of the earlier
comes last, and the patience that is left.  The shorter one is passed first. -/
def mergeParts (below : α → α → Bool) (patience : Nat) (earlier later : List α) : List α × Nat :=
  if earlier.length ≤ later.length then (Contest.upward below).mergeFrom patience earlier later
  else
    let (merged, patience) :=
      (Contest.downward below).mergeFrom patience later.reverse earlier.reverse
    (merged.reverse, patience)

/-- Two neighbouring runs merged, and the patience that is left.  What comes before all of the later
run or behind all of the earlier one stays where it is. -/
def mergeRuns (below : α → α → Bool) (patience : Nat) (earlier later : List α) : List α × Nat :=
  match later with
  | [] => (earlier, patience)
  | y :: _ =>
    let start := gallop (fun x => !below y x) earlier 0
    match (earlier.drop start).getLast? with
    | none => (earlier ++ later, patience)
    | some last =>
      let stop := gallop (fun y => below y last) later (later.length - 1)
      let (merged, patience) :=
        mergeParts below patience (earlier.drop start) (later.take stop)
      (earlier.take start ++ (merged ++ later.drop stop), patience)

end Sorting

end TableSearch
