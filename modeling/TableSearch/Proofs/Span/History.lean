import Mathlib.Data.Set.Lattice
import TableSearch.Proofs.Span.Union

/-! # What has been put into a span set

A program builds its span sets by calls: a set is constructed from a list, spans are added to it one
by one or several at a time, and it is copied. A call may be refused at a pair of offsets that is no
span.

`TableSearch.SpanStep.run_represents`: after any steps, every set holds its spans from left to right,
none of which reaches into a later one, and they cover the positions of the spans that were accepted
for the set. A refused step keeps what it accepted before the refusal, and only that.

The invariant is that a set is the normal form of its accepted spans
(`TableSearch.SpanSet.Collects`). One call keeps it (`TableSearch.SpanSet.Collects.perform`), and so
does a step on a store of sets, since the record of accepted spans is kept in step with the store
(`TableSearch.SpanStep.perform_collects`).
-/

namespace TableSearch

namespace Span

variable {pair : Int × Int} {offset : Nat}

/-- Whether a pair of offsets is a span: it does not start below zero or end before it starts. -/
def IsProper (pair : Int × Int) : Prop :=
  0 ≤ pair.1 ∧ pair.1 ≤ pair.2

instance : DecidablePred IsProper := fun pair =>
  inferInstanceAs (Decidable (0 ≤ pair.1 ∧ pair.1 ≤ pair.2))

/-- The span from one offset to another. -/
def ofPair (pair : Int × Int) : Span :=
  ⟨pair.1.toNat, pair.2.toNat⟩

theorem ofPair_proper (proper : IsProper pair) : (ofPair pair).start ≤ (ofPair pair).stop :=
  Int.toNat_le_toNat proper.2

theorem ofPair_covers (proper : IsProper pair) :
    (ofPair pair).Covers offset ↔ pair.1 ≤ offset ∧ (offset : Int) < pair.2 := by
  obtain ⟨above, ends⟩ := proper
  simp only [ofPair, Covers]
  omega

end Span

open TableSearch.Span

/-- A call on a span set. -/
inductive SpanCall where
  /-- One span is added. -/
  | add (start stop : Int)
  /-- Several spans are added. -/
  | addAll (pairs : List (Int × Int))

namespace SpanCall

/-- The pairs of offsets that a call hands over. -/
def pairs : SpanCall → List (Int × Int)
  | add start stop => [(start, stop)]
  | addAll pairs => pairs

/-- The spans that a call gets accepted: those before the first pair that is no span. -/
def accepted (call : SpanCall) : List (Int × Int) :=
  call.pairs.takeWhile (IsProper ·)

/-- The refusal of the first pair that is no span. -/
def refusal? (call : SpanCall) : Option InvalidSpan :=
  (call.pairs.find? (!IsProper ·)).map fun pair => ⟨pair.1, pair.2⟩

variable {before after : List (Int × Int)} {bad : Int × Int}

theorem isProper_of_mem_accepted (call : SpanCall) : ∀ pair ∈ call.accepted, IsProper pair := by
  intro pair member
  exact of_decide_eq_true (List.all_eq_true.mp List.all_takeWhile pair member)

/-- A call is refused at no pair exactly if all of its pairs are spans. -/
theorem refusal?_eq_none_iff (call : SpanCall) : call.refusal? = none ↔ ∀ pair ∈ call.pairs, IsProper pair := by
  simp only [refusal?, Option.map_eq_none_iff, List.find?_eq_none, Bool.not_eq_true',
    decide_eq_false_iff_not, not_not]

/-- A call with spans only is accepted as a whole. -/
theorem accepted_of_proper (call : SpanCall) (proper : ∀ pair ∈ call.pairs, IsProper pair) :
    call.accepted = call.pairs := by
  have accepts : ∀ pair ∈ call.pairs, decide (IsProper pair) = true := fun pair member =>
    decide_eq_true (proper pair member)
  have all : (call.pairs ++ []).takeWhile (IsProper ·) = call.pairs ++ [].takeWhile (IsProper ·) :=
    List.takeWhile_append_of_pos accepts
  rwa [List.takeWhile_nil, List.append_nil] at all

/-- A call accepts what stands before the first pair that is no span, and is refused there. -/
theorem accepted_and_refusal? (call : SpanCall) (pairs : call.pairs = before ++ bad :: after)
    (proper : ∀ pair ∈ before, IsProper pair) (improper : ¬IsProper bad) :
    call.accepted = before ∧ call.refusal? = some ⟨bad.1, bad.2⟩ := by
  have accepts : ∀ pair ∈ before, decide (IsProper pair) = true := fun pair member =>
    decide_eq_true (proper pair member)
  have passes : before.find? (!IsProper ·) = none := by
    simp only [List.find?_eq_none, Bool.not_eq_true', decide_eq_false_iff_not, not_not]
    exact proper
  constructor
  · simp only [accepted, pairs, List.takeWhile_append_of_pos accepts, List.takeWhile_cons, improper,
      decide_false, Bool.false_eq_true, ↓reduceIte, List.append_nil]
  · simp only [refusal?, pairs, List.find?_append, passes, Option.none_or, List.find?_cons,
      improper, decide_false, Bool.not_false, Option.map_some]

end SpanCall

namespace SpanSet

variable {set : SpanSet} {call : SpanCall} {pairs before after accepted : List (Int × Int)}
  {pair bad : Int × Int}

/-! ## One call -/

/-- The set after a call, and the refusal if there was one. -/
def perform (set : SpanSet) : SpanCall → SpanSet × Option InvalidSpan
  | .add start stop =>
    match set.add? start stop with
    | .ok larger => (larger, none)
    | .error refused => (set, some refused)
  | .addAll pairs => set.addAll pairs

/-- The set with the spans of several pairs. -/
def insertAll (set : SpanSet) (pairs : List (Int × Int)) : SpanSet :=
  (pairs.map ofPair).foldl insert set

/-- A span is put into the set. -/
theorem add?_of_proper (proper : IsProper pair) :
    set.add? pair.1 pair.2 = .ok (set.insert (ofPair pair)) := by
  obtain ⟨above, ends⟩ := proper
  have inside : ¬(decide (pair.1 < 0) || decide (pair.2 < pair.1)) = true := by
    rw [Bool.or_eq_true, decide_eq_true_eq, decide_eq_true_eq]
    omega
  rw [add?, if_neg inside, ofPair]

/-- A pair that is no span is refused, with both offsets in the message. -/
theorem add?_of_not_proper (improper : ¬IsProper pair) :
    set.add? pair.1 pair.2 = .error ⟨pair.1, pair.2⟩ := by
  have outside : (decide (pair.1 < 0) || decide (pair.2 < pair.1)) = true := by
    rw [IsProper] at improper
    rw [Bool.or_eq_true, decide_eq_true_eq, decide_eq_true_eq]
    omega
  rw [add?, if_pos outside]

/-- Several spans are inserted up to the first pair that is none. -/
theorem addAll_eq : set.addAll pairs =
    (set.insertAll (pairs.takeWhile (IsProper ·)),
      (pairs.find? (!IsProper ·)).map fun pair => ⟨pair.1, pair.2⟩) := by
  induction pairs generalizing set with
  | nil => rfl
  | cons pair rest ih =>
      by_cases proper : IsProper pair
      · simp only [addAll, add?_of_proper proper, List.takeWhile_cons, List.find?_cons, proper,
          decide_true, Bool.not_true, ↓reduceIte]
        exact ih
      · simp only [addAll, add?_of_not_proper proper, List.takeWhile_cons, List.find?_cons, proper,
          decide_false, Bool.not_false, Bool.false_eq_true, ↓reduceIte]
        rfl

theorem perform_add {start stop : Int} :
    set.perform (.add start stop) = set.addAll [(start, stop)] := by
  cases answer : set.add? start stop with
  | error refused => simp only [perform, addAll, answer]
  | ok larger => simp only [perform, addAll, answer]

/-- A call inserts the spans it gets accepted, and is refused at the first pair that is none. -/
theorem perform_eq : set.perform call = (set.insertAll call.accepted, call.refusal?) := by
  cases call with
  | add start stop =>
      rw [perform_add]
      exact addAll_eq
  | addAll pairs => exact addAll_eq

/-- Whether a set is the normal form of the spans that were accepted for it. -/
structure Collects (set : SpanSet) (accepted : List (Int × Int)) : Prop where
  proper : ∀ pair ∈ accepted, IsProper pair
  normal : NormalForm set.spans (accepted.map ofPair)

namespace Collects

theorem empty : SpanSet.empty.Collects [] where
  proper := by
    intro pair member
    cases member
  normal := .self .nil

/-- Spans that are put into a set one by one are accepted after those before them. -/
theorem insertAll (collects : set.Collects accepted) (proper : ∀ pair ∈ pairs, IsProper pair) :
    (set.insertAll pairs).Collects (accepted ++ pairs) where
  proper := List.forall_mem_append.mpr ⟨collects.proper, proper⟩
  normal := by
    have spans : ∀ s ∈ pairs.map ofPair, s.start ≤ s.stop := by
      intro s member
      obtain ⟨pair, inside, rfl⟩ := List.mem_map.mp member
      exact ofPair_proper (proper pair inside)
    have inserted := foldl_insert_normal collects.normal.apart spans
    rw [List.map_append]
    exact (inserted.trans collects.normal).of_perm List.perm_append_comm

/-- **One call.** A set collects what it had collected and what the call gets accepted. -/
theorem perform (collects : set.Collects accepted) (call : SpanCall) :
    (set.perform call).1.Collects (accepted ++ call.accepted) := by
  rw [perform_eq]
  exact collects.insertAll call.isProper_of_mem_accepted

end Collects

/-! ## Positions -/

/-- The positions that a set covers. -/
def positions (set : SpanSet) : Set Int :=
  ⋃ s ∈ set.spans, {position | s.start ≤ position ∧ position < s.stop}

/-- Whether a set holds spans from left to right, none of which reaches into a later one, and covers
the positions of the spans that were accepted for it. -/
structure Represents (set : SpanSet) (accepted : List (Int × Int)) : Prop where
  increasing : set.spans.Pairwise fun s t => s.precedes t = true
  proper : ∀ s ∈ set.spans, s.start ≤ s.stop
  apart : set.spans.Pairwise fun s t => s.stop ≤ t.start
  positions_eq : set.positions =
    ⋃ pair ∈ accepted, {position | pair.1 ≤ position ∧ position < pair.2}

/-- The positions of a set are the offsets that its spans cover. -/
theorem mem_positions {position : Int} :
    position ∈ set.positions ↔ ∃ offset : Nat, position = offset ∧ Covered set.spans offset := by
  simp only [positions, Set.mem_iUnion, Set.mem_ofPred_eq, exists_prop, Covered, Covers]
  constructor
  · rintro ⟨s, member, starts, stops⟩
    refine ⟨position.toNat, by omega, s, member, by omega, by omega⟩
  · rintro ⟨offset, rfl, s, member, starts, stops⟩
    exact ⟨s, member, by omega, by omega⟩

/-- A set that is the normal form of its accepted spans represents them. -/
theorem Collects.represents (collects : set.Collects accepted) : set.Represents accepted where
  increasing := collects.normal.apart.pairwise_precedes
  proper := collects.normal.apart.proper
  apart := collects.normal.apart.pairwise.imp fun before => before.1
  positions_eq := by
    ext position
    rw [mem_positions]
    simp only [Set.mem_iUnion, Set.mem_ofPred_eq, exists_prop, collects.normal.covered]
    constructor
    · rintro ⟨offset, rfl, s, member, covers⟩
      obtain ⟨pair, inside, rfl⟩ := List.mem_map.mp member
      exact ⟨pair, inside, (ofPair_covers (collects.proper pair inside)).mp covers⟩
    · rintro ⟨pair, inside, covers⟩
      have proper := collects.proper pair inside
      have natural : position = position.toNat := by
        have above := proper.1
        omega
      rw [natural] at covers
      exact ⟨position.toNat, natural, ofPair pair, List.mem_map_of_mem inside,
        (ofPair_covers proper).mpr covers⟩

end SpanSet

/-! ## Steps -/

/-- Span sets by their names. -/
abbrev SpanStore := Nat → SpanSet

/-- A step of a program with span sets. -/
inductive SpanStep where
  /-- A set is constructed from a list of spans and named. -/
  | construct (name : Nat) (pairs : List (Int × Int))
  /-- Spans are added to a set. -/
  | change (name : Nat) (call : SpanCall)
  /-- A set is copied and the copy named. -/
  | copy (source target : Nat)

namespace SpanStep

variable {store : SpanStore} {accepted : Nat → List (Int × Int)}
  {pairs before after : List (Int × Int)} {bad : Int × Int} {name : Nat}

/-- The sets after a step, and the refusal if there was one. -/
def perform (store : SpanStore) : SpanStep → SpanStore × Option InvalidSpan
  | construct name pairs =>
    match SpanSet.empty.addAll pairs with
    | (set, none) => (Function.update store name set, none)
    | (_, some refused) => (store, some refused)
  | change name call =>
    (Function.update store name ((store name).perform call).1, ((store name).perform call).2)
  | copy source target => (Function.update store target (store source), none)

/-- The sets after several steps, all of them empty at first. -/
def run (steps : List SpanStep) : SpanStore :=
  steps.foldl (fun store step => (step.perform store).1) fun _ => .empty

/-- The spans that have been accepted for each set after a step. -/
def record (accepted : Nat → List (Int × Int)) : SpanStep → Nat → List (Int × Int)
  | construct name pairs =>
    if ∀ pair ∈ pairs, IsProper pair then Function.update accepted name pairs else accepted
  | change name call => Function.update accepted name (accepted name ++ call.accepted)
  | copy source target => Function.update accepted target (accepted source)

/-- The spans that have been accepted for each set after several steps. -/
def acceptedBy (steps : List SpanStep) : Nat → List (Int × Int) :=
  steps.foldl record fun _ => []

/-- A constructed set is an empty one to which a list of spans is added. If one of them is refused,
the name keeps the set it had. -/
theorem perform_construct : (construct name pairs).perform store =
    match (SpanCall.addAll pairs).refusal? with
    | none => (Function.update store name
        (SpanSet.empty.insertAll (SpanCall.addAll pairs).accepted), none)
    | some refused => (store, some refused) := by
  have called : SpanSet.empty.addAll pairs = (SpanSet.empty.insertAll
      (SpanCall.addAll pairs).accepted, (SpanCall.addAll pairs).refusal?) := SpanSet.addAll_eq
  rw [perform, called]
  cases (SpanCall.addAll pairs).refusal? <;> rfl

/-- **One step.** If every set collects the spans that have been accepted for it, it does so after a
step. -/
theorem perform_collects (collects : ∀ name, (store name).Collects (accepted name))
    (step : SpanStep) :
    ∀ name, ((step.perform store).1 name).Collects (step.record accepted name) := by
  have updated : ∀ {name set spans}, SpanSet.Collects set spans → ∀ other,
      (Function.update store name set other).Collects
        (Function.update accepted name spans other) := by
    intro name set spans changed other
    by_cases same : other = name
    · subst same
      simpa only [Function.update_self] using changed
    · simpa only [Function.update_of_ne same] using collects other
  cases step with
  | construct name pairs =>
      rw [perform_construct, record]
      by_cases proper : ∀ pair ∈ pairs, IsProper pair
      · have accepts := (SpanCall.refusal?_eq_none_iff (.addAll pairs)).mpr proper
        rw [accepts, if_pos proper, SpanCall.accepted_of_proper (.addAll pairs) proper]
        exact updated (SpanSet.Collects.empty.insertAll proper)
      · have refuses := mt (SpanCall.refusal?_eq_none_iff (.addAll pairs)).mp proper
        obtain ⟨refused, refusal⟩ := Option.ne_none_iff_exists'.mp refuses
        rw [refusal, if_neg proper]
        exact collects
  | change name call => exact updated ((collects name).perform call)
  | copy source target => exact updated (collects source)

/-- After any steps every set is the normal form of the spans that were accepted for it. -/
theorem run_collects (steps : List SpanStep) :
    ∀ name, (run steps name).Collects (acceptedBy steps name) := by
  have onward : ∀ {store accepted}, (∀ name, SpanSet.Collects (store name) (accepted name)) →
      ∀ name, (steps.foldl (fun store step => (step.perform store).1) store name).Collects
        (steps.foldl record accepted name) := by
    induction steps with
    | nil => exact fun collects => collects
    | cons step rest ih => exact fun collects => ih (perform_collects collects step)
  exact onward fun _ => .empty

/-- What becomes of sets when a step is refused: adding one span changes nothing, adding several
keeps those before the refused one, and nothing is constructed. -/
structure StopsAtRefusal (store : SpanStore) : Prop where
  add : ∀ name start stop, ¬IsProper (start, stop) →
    (change name (.add start stop)).perform store = (store, some ⟨start, stop⟩)
  addAll : ∀ name before bad after, (∀ pair ∈ before, IsProper pair) → ¬IsProper bad →
    ∃ kept, (change name (.addAll before)).perform store = (kept, none) ∧
      (change name (.addAll (before ++ bad :: after))).perform store =
        (kept, some ⟨bad.1, bad.2⟩)
  construct : ∀ name before bad after, (∀ pair ∈ before, IsProper pair) → ¬IsProper bad →
    (construct name (before ++ bad :: after)).perform store = (store, some ⟨bad.1, bad.2⟩)

/-- A refused call keeps what it accepted before the refusal, and a refused construction leaves the
store as it was. -/
theorem stopsAtRefusal (store : SpanStore) : StopsAtRefusal store where
  add := by
    intro name start stop improper
    have unchanged : (store name).perform (.add start stop) = (store name, some ⟨start, stop⟩) := by
      have refused : (store name).add? start stop = .error ⟨start, stop⟩ :=
        SpanSet.add?_of_not_proper improper
      rw [SpanSet.perform, refused]
    rw [perform, unchanged, Function.update_eq_self]
  addAll := by
    intro name before bad after proper improper
    obtain ⟨accepts, refuses⟩ := SpanCall.accepted_and_refusal?
      (.addAll (before ++ bad :: after)) rfl proper improper
    have whole := SpanCall.accepted_of_proper (.addAll before) proper
    have passes := (SpanCall.refusal?_eq_none_iff (.addAll before)).mpr proper
    refine ⟨Function.update store name ((store name).insertAll before), ?_, ?_⟩
    · rw [perform, SpanSet.perform_eq, whole, passes]
      rfl
    · rw [perform, SpanSet.perform_eq, accepts, refuses]
  construct := by
    intro name before bad after proper improper
    have refuses := (SpanCall.accepted_and_refusal?
      (.addAll (before ++ bad :: after)) rfl proper improper).2
    rw [perform_construct, refuses]

/-- **Histories.** After any steps, every set represents the spans that have been accepted for it,
and a step that is refused next keeps what stands before the refusal. -/
theorem run_represents (steps : List SpanStep) :
    (∀ name, (run steps name).Represents (acceptedBy steps name)) ∧ StopsAtRefusal (run steps) :=
  ⟨fun name => (run_collects steps name).represents, stopsAtRefusal (run steps)⟩

end SpanStep

end TableSearch
