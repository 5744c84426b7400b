import TableSearch.Sorting.Merge

/-! # Stable sorting

A list is cut into runs.  A run is what the list goes on with in order, turned around if it
descends; if it is short, the next elements are inserted, each at a place found by halving.  The
runs are merged with their neighbours, so that elements of equal order stay as they were.
-/

namespace TableSearch

namespace Sorting

variable {α : Type} (below : α → α → Bool)

/-! ## Runs -/

/-- The elements that go on a run upwards, and the rest; `last` is the end of the run. -/
def climb (last : α) : List α → List α × List α
  | [] => ([], [])
  | x :: rest =>
    if below x last then ([], x :: rest)
    else
      let (run, later) := climb x rest
      (x :: run, later)

/-- The elements that go on a run strictly downwards, and the rest; `last` is the end of the run. -/
def descend (last : α) : List α → List α × List α
  | [] => ([], [])
  | x :: rest =>
    if below x last then
      let (run, later) := descend x rest
      (x :: run, later)
    else ([], x :: rest)

/-- The run that a list begins with, in ascending order, and the rest. -/
def firstRun : List α → List α × List α
  | [] => ([], [])
  | [x] => ([x], [])
  | x :: y :: rest =>
    if below y x then
      let (run, later) := descend below y rest
      ((x :: y :: run).reverse, later)
    else
      let (run, later) := climb below y rest
      (x :: y :: run, later)

/-- A run with one more element, behind the elements it is not below. -/
def insert (run : List α) (x : α) : List α :=
  let spot := place (fun y => !below x y) run 0 run.length (run.length + 1)
  run.take spot ++ x :: run.drop spot

/-- The least length of a run in a list: for longer lists, between 32 and 64 and such that the
number of runs is a power of two or a little less. -/
def leastRun (length : Nat) : Nat :=
  let scale := Nat.pow 2 (Nat.log2 length - 5)
  length / scale + if length % scale = 0 then 0 else 1

/-- A list cut into runs of some least length. -/
def cut (least : Nat) : Nat → List α → List (List α)
  | rounds + 1, x :: list =>
    let (run, rest) := firstRun below (x :: list)
    let missing := least - run.length
    (rest.take missing).foldl (insert below) run :: cut least rounds (rest.drop missing)
  | _, _ => []

/-! ## Merging the runs -/

/-- A run that waits to be merged: where it starts, and how deep the border behind it lies. -/
structure Waiting (α : Type) where
  start : Nat
  run : List α
  depth : Nat

/-- How deep the border between two neighbouring runs lies: how often the list has to be halved
before their middles lie in different parts.  The middles are doubled. -/
def borderDepth (length middle middle' : Nat) : Nat :=
  let parted (depth : Nat) : Bool :=
    middle * Nat.pow 2 depth / length < middle' * Nat.pow 2 depth / length
  ((List.range (Nat.log2 length + 2)).find? parted).getD 0 + 1

/-- The last run merged with all waiting ones behind which the border lies deeper than a given one,
the runs that go on waiting, and the patience that is left. -/
def settle (depth patience : Nat) (last : Waiting α) :
    List (Waiting α) → Waiting α × List (Waiting α) × Nat
  | [] => (last, [], patience)
  | under :: waiting =>
    if depth < under.depth then
      let (merged, patience) := mergeRuns below patience under.run last.run
      settle depth patience ⟨under.start, merged, under.depth⟩ waiting
    else (last, under :: waiting, patience)

/-- One more run behind the waiting ones, the last first. -/
def await (length patience : Nat) (run : List α) :
    List (Waiting α) → List (Waiting α) × Nat
  | [] => ([⟨0, run, 0⟩], patience)
  | last :: waiting =>
    let middle := 2 * last.start + last.run.length
    let start := last.start + last.run.length
    let depth := borderDepth length middle (middle + last.run.length + run.length)
    let (last, waiting, patience) := settle below depth patience last waiting
    (⟨start, run, 0⟩ :: { last with depth } :: waiting, patience)

/-- Several runs behind the waiting ones. -/
def awaitAll (length patience : Nat) (waiting : List (Waiting α)) :
    List (List α) → List (Waiting α) × Nat
  | [] => (waiting, patience)
  | run :: runs =>
    let (waiting, patience) := await below length patience run waiting
    awaitAll length patience waiting runs

/-- All waiting runs merged, the last first. -/
def collapse : Nat → Nat → List (Waiting α) → List α
  | rounds + 1, patience, third :: second :: first :: waiting =>
    if first.run.length < third.run.length then
      let (merged, patience) := mergeRuns below patience first.run second.run
      collapse rounds patience (third :: ⟨first.start, merged, first.depth⟩ :: waiting)
    else
      let (merged, patience) := mergeRuns below patience second.run third.run
      collapse rounds patience (⟨second.start, merged, second.depth⟩ :: first :: waiting)
  | _, patience, [second, first] => (mergeRuns below patience first.run second.run).1
  | _, _, waiting => waiting.reverse.flatMap (·.run)

/-- The list in the order of a comparison. -/
def sort (list : List α) : List α :=
  let runs := cut below (leastRun list.length) list.length list
  let (waiting, patience) := awaitAll below list.length Contest.worthwhile [] runs
  collapse below waiting.length patience waiting

end Sorting

end TableSearch
