import Mathlib.Logic.Relation
import Mathlib.Order.Bounds.Basic
import TableSearch.Proofs.Span.History

/-! # Groups of overlapping spans

Two spans meet if they share a position; spans that only touch do not. The spans of a list that are
not empty fall into groups, each of which holds all that can be reached from one of its spans by
going from a span to one it meets (`TableSearch.Span.IsGroup`).

The normal form of a list has one span for each group, from its first start to its last end, and the
empty spans of the list that lie strictly inside none of these (`TableSearch.Span.Merges`,
`TableSearch.Span.NormalForm.merges`). So a set that has been built by calls depends only on which
spans were handed over, and is their merging (`TableSearch.SpanSet.build_canonical`).
-/

namespace TableSearch

namespace Span

variable {s t u r : Span} {spans result : List Span} {group : Set Span} {offset place : Nat}

/-- Whether two spans share a position. -/
def Meets (s t : Span) : Prop :=
  ∃ offset, s.Covers offset ∧ t.Covers offset

/-- Whether a span is reached from another one over spans of a list, each of which meets the one
before it. -/
def Linked (spans : List Span) : Span → Span → Prop :=
  Relation.ReflTransGen fun s t => t ∈ spans ∧ s.Meets t

/-- Whether a set of spans is all that is linked to one span of a list that is not empty. -/
def IsGroup (spans : List Span) (group : Set Span) : Prop :=
  ∃ s ∈ spans, s.start < s.stop ∧ group = {t | Linked spans s t}

/-- Whether a span reaches from the first start in a group to the last end. -/
structure IsHull (r : Span) (group : Set Span) : Prop where
  start : IsLeast (Span.start '' group) r.start
  stop : IsGreatest (Span.stop '' group) r.stop

/-- Whether a list has, in order and each once, the hulls of the groups of other spans, and their
empty spans that lie strictly inside no hull. -/
structure Merges (result spans : List Span) : Prop where
  increasing : result.Pairwise fun s t => s.precedes t = true
  proper : ∀ r ∈ result, r.start ≤ r.stop
  hull_unique : ∀ group, IsGroup spans group → ∃! r, (r ∈ result ∧ r.start < r.stop) ∧ r.IsHull group
  group_unique : ∀ r ∈ result, r.start < r.stop → ∃! group, IsGroup spans group ∧ r.IsHull group
  empty_iff : ∀ place, ⟨place, place⟩ ∈ result ↔ ⟨place, place⟩ ∈ spans ∧
    ¬∃ group r, IsGroup spans group ∧ IsHull r group ∧ r.start < place ∧ place < r.stop

theorem IsHull.unique (left : r.IsHull group) (right : s.IsHull group) : r = s :=
  eq_of_ends (left.start.unique right.start) (left.stop.unique right.stop)

/-- The spans of a list that are not empty and lie inside a given one. -/
def within (spans : List Span) (r : Span) : Set Span :=
  {t | t ∈ spans ∧ t.start < t.stop ∧ r.start ≤ t.start ∧ t.stop ≤ r.stop}

/-- A span that meets one inside another lies there too, unless it crosses an end. -/
theorem mem_within_of_meets (startFree : ¬Crossed spans r.start) (stopFree : ¬Crossed spans r.stop)
    (inside : s ∈ within spans r) (member : t ∈ spans) (meets : s.Meets t) :
    t ∈ within spans r := by
  obtain ⟨-, -, above, below⟩ := inside
  obtain ⟨offset, ⟨starts, stops⟩, starts', stops'⟩ := meets
  have first : r.start ≤ t.start := by
    by_contra early
    exact startFree ⟨t, member, by omega, by omega⟩
  have last : t.stop ≤ r.stop := by
    by_contra late
    exact stopFree ⟨t, member, by omega, by omega⟩
  exact ⟨member, by omega, first, last⟩

/-- Going on from a span inside a region whose ends are not crossed, to spans that meet, never leads
out of the region. -/
theorem mem_within_of_linked (startFree : ¬Crossed spans r.start)
    (stopFree : ¬Crossed spans r.stop) (inside : s ∈ within spans r) (linked : Linked spans s t) :
    t ∈ within spans r := by
  induction linked with
  | refl => exact inside
  | tail _ step ih => exact mem_within_of_meets startFree stopFree ih step.1 step.2

/-- A way from span to span can be gone back. -/
theorem Linked.symm (member : s ∈ spans) (linked : Linked spans s t) : Linked spans t s := by
  induction linked with
  | refl => exact .refl
  | @tail t u before step ih =>
      have known : t ∈ spans := by
        cases before with
        | refl => exact member
        | tail _ last => exact last.1
      obtain ⟨offset, first, second⟩ := step.2
      exact .head ⟨known, offset, second, first⟩ ih

/-- Positions that are crossed without a break are covered by linked spans. The induction goes from
left to right: where a span ends, another one crosses. -/
theorem exists_linked_covers (member : s ∈ spans) (nonempty : s.start < s.stop)
    (crossed : ∀ offset, s.start < offset → offset < place → Crossed spans offset)
    (above : s.start ≤ offset) (below : offset < place) :
    ∃ t ∈ spans, Linked spans s t ∧ t.Covers offset := by
  induction offset, above using Nat.le_induction with
  | base => exact ⟨s, member, .refl, Nat.le_refl _, nonempty⟩
  | succ offset above ih =>
      obtain ⟨t, known, linked, covers⟩ := ih (by omega)
      obtain ⟨u, other, starts, stops⟩ := crossed (offset + 1) (by omega) below
      have meets : t.Meets u := ⟨offset, covers, by omega, by omega⟩
      exact ⟨u, other, linked.tail ⟨other, meets⟩, by omega, stops⟩

namespace NormalForm

/-- A normal form has a span around every span of the list that is not empty. -/
theorem exists_mem_within (normal : NormalForm result spans) (member : s ∈ spans)
    (nonempty : s.start < s.stop) : ∃ r ∈ result, r.start < r.stop ∧ s ∈ within spans r := by
  have covered : Covered spans s.start := ⟨s, member, Nat.le_refl _, nonempty⟩
  obtain ⟨r, known, starts, stops⟩ := (normal.covered s.start).mpr covered
  refine ⟨r, known, by omega, member, nonempty, starts, ?_⟩
  by_contra late
  have crossed : Crossed spans r.stop := ⟨s, member, stops, by omega⟩
  exact normal.apart.not_crossed_stop known ((normal.crossed r.stop).mpr crossed)

/-- The spans inside a span of the normal form are linked: they are a group, and it is their
hull. -/
theorem within_isGroup (normal : NormalForm result spans) (member : r ∈ result)
    (nonempty : r.start < r.stop) :
    IsGroup spans (within spans r) ∧ r.IsHull (within spans r) := by
  have startFree := mt (normal.crossed r.start).mpr (normal.apart.not_crossed_start member)
  have stopFree := mt (normal.crossed r.stop).mpr (normal.apart.not_crossed_stop member)
  obtain ⟨s, known, starts, stops⟩ :=
    (normal.covered r.start).mp ⟨r, member, Nat.le_refl _, nonempty⟩
  have first : s.start = r.start := by
    by_contra different
    exact startFree ⟨s, known, by omega, stops⟩
  have inside : s ∈ within spans r := by
    refine ⟨known, by omega, by omega, ?_⟩
    by_contra late
    exact stopFree ⟨s, known, by omega, by omega⟩
  have crossed : ∀ offset, s.start < offset → offset < r.stop → Crossed spans offset := by
    intro offset above below
    exact (normal.crossed offset).mp ⟨r, member, by omega, below⟩
  have reaches : ∀ offset, s.start ≤ offset → offset < r.stop →
      ∃ t ∈ spans, Linked spans s t ∧ t.Covers offset := fun offset =>
    exists_linked_covers known inside.2.1 crossed
  have linked_iff : ∀ t, t ∈ within spans r ↔ Linked spans s t := by
    intro t
    constructor
    · rintro ⟨other, filled, above, below⟩
      obtain ⟨u, -, linked, covers⟩ := reaches t.start (by omega) (by omega)
      exact linked.tail ⟨other, t.start, covers, Nat.le_refl _, filled⟩
    · exact mem_within_of_linked startFree stopFree inside
  refine ⟨⟨s, known, inside.2.1, Set.ext linked_iff⟩, ⟨⟨s, inside, first⟩, ?_⟩, ?_, ?_⟩
  · rintro _ ⟨t, ⟨-, -, above, -⟩, rfl⟩
    exact above
  · obtain ⟨t, other, linked, covers⟩ := reaches (r.stop - 1) (by omega) (by omega)
    have last := (linked_iff t).mpr linked
    refine ⟨t, last, ?_⟩
    have below := last.2.2.2
    have holds := covers.2
    omega
  · rintro _ ⟨t, ⟨-, -, -, below⟩, rfl⟩
    exact below

/-- Every group is what lies inside one span of the normal form. -/
theorem exists_eq_within (normal : NormalForm result spans) (isGroup : IsGroup spans group) :
    ∃ r ∈ result, r.start < r.stop ∧ group = within spans r := by
  obtain ⟨s, known, nonempty, rfl⟩ := isGroup
  obtain ⟨r, member, filled, inside⟩ := normal.exists_mem_within known nonempty
  refine ⟨r, member, filled, ?_⟩
  obtain ⟨⟨s', known', -, same⟩, -⟩ := normal.within_isGroup member filled
  have linked : Linked spans s' s := by
    rw [same] at inside
    exact inside
  rw [same]
  ext t
  exact ⟨fun onward => linked.trans onward, fun onward => (linked.symm known').trans onward⟩

/-- **Merging.** The normal form of a list has the hull of each of its groups, and its empty spans
that lie strictly inside no hull. -/
theorem merges (normal : NormalForm result spans) : Merges result spans where
  increasing := normal.apart.pairwise_precedes
  proper := normal.apart.proper
  hull_unique := by
    intro group isGroup
    obtain ⟨r, member, nonempty, rfl⟩ := normal.exists_eq_within isGroup
    have hull := (normal.within_isGroup member nonempty).2
    exact ⟨r, ⟨⟨member, nonempty⟩, hull⟩, fun other known => known.2.unique hull⟩
  group_unique := by
    intro r member nonempty
    obtain ⟨isGroup, hull⟩ := normal.within_isGroup member nonempty
    refine ⟨within spans r, ⟨isGroup, hull⟩, ?_⟩
    rintro group ⟨isGroup', hull'⟩
    obtain ⟨r', member', nonempty', rfl⟩ := normal.exists_eq_within isGroup'
    rw [hull'.unique (normal.within_isGroup member' nonempty').2]
  empty_iff := by
    intro place
    have crossed_iff : Crossed result place ↔
        ∃ group r, IsGroup spans group ∧ IsHull r group ∧ r.start < place ∧ place < r.stop := by
      constructor
      · rintro ⟨r, member, starts, stops⟩
        obtain ⟨isGroup, hull⟩ := normal.within_isGroup member (by omega)
        exact ⟨within spans r, r, isGroup, hull, starts, stops⟩
      · rintro ⟨group, r, isGroup, hull, starts, stops⟩
        obtain ⟨r', member, nonempty, rfl⟩ := normal.exists_eq_within isGroup
        have same := hull.unique (normal.within_isGroup member nonempty).2
        rw [same] at starts stops
        exact ⟨r', member, starts, stops⟩
    rw [← crossed_iff]
    constructor
    · intro marked
      have free := normal.apart.not_crossed_of_marked marked
      exact ⟨(normal.marked place free).mp marked, free⟩
    · rintro ⟨marked, free⟩
      exact (normal.marked place free).mpr marked

end NormalForm

end Span

namespace SpanSet

open TableSearch.Span

variable {calls calls' : List SpanCall}

/-- The set that several calls build from the empty set. -/
def build (calls : List SpanCall) : SpanSet :=
  calls.foldl (fun set call => (set.perform call).1) empty

/-- The pairs of offsets that several calls hand over. -/
def handed (calls : List SpanCall) : List (Int × Int) :=
  calls.flatMap SpanCall.pairs

/-- A set that is built by calls, none of which is refused, is the normal form of all that was
handed over. -/
theorem build_collects (proper : ∀ pair ∈ handed calls, IsProper pair) :
    (build calls).Collects (handed calls) := by
  have onward : ∀ {set accepted}, Collects set accepted →
      (calls.foldl (fun set call => (set.perform call).1) set).Collects
        (accepted ++ handed calls) := by
    induction calls with
    | nil =>
        intro set accepted collects
        rwa [handed, List.flatMap_nil, List.append_nil]
    | cons call rest ih =>
        intro set accepted collects
        rw [handed, List.flatMap_cons, List.forall_mem_append] at proper
        have first := collects.perform call
        rw [call.accepted_of_proper proper.1] at first
        have all := ih proper.2 first
        rwa [List.append_assoc] at all
  exact onward .empty

/-- **Canonical form.** Calls that hand over the same spans, all of them proper, build the same set,
which is the merging of these spans, and none of them is refused. -/
theorem build_canonical (proper : ∀ pair ∈ handed calls, IsProper pair)
    (same : ∀ pair, pair ∈ handed calls ↔ pair ∈ handed calls') :
    build calls = build calls' ∧ Merges (build calls).spans ((handed calls).map ofPair) ∧
      ∀ call ∈ calls ++ calls', ∀ set : SpanSet, (set.perform call).2 = none := by
  have proper' : ∀ pair ∈ handed calls', IsProper pair := fun pair member =>
    proper pair ((same pair).mpr member)
  have collects := build_collects proper
  have collects' := build_collects proper'
  refine ⟨eq_of_spans_eq (collects.normal.unique collects'.normal ?_), collects.normal.merges, ?_⟩
  · intro s
    simp only [List.mem_map, same]
  · intro call member set
    rw [perform_eq, call.refusal?_eq_none_iff]
    intro pair inside
    rcases List.mem_append.mp member with first | second
    · exact proper pair (List.mem_flatMap.mpr ⟨call, first, inside⟩)
    · exact proper' pair (List.mem_flatMap.mpr ⟨call, second, inside⟩)

/-- Two spans that overlap become one, a mark inside it goes, and a mark at its end stays. -/
theorem build_overlap :
    let calls : List SpanCall := [.add 0 3, .addAll [(5, 5), (2, 5), (1, 1)]]
    let calls' : List SpanCall := [.addAll [(1, 1), (2, 5)], .add 5 5, .addAll [(0, 3), (2, 5)]]
    (build calls).spans = [⟨0, 5⟩, ⟨5, 5⟩] ∧ build calls = build calls' ∧
      Merges [⟨0, 5⟩, ⟨5, 5⟩] ((handed calls).map ofPair) := by
  intro calls calls'
  have proper : ∀ pair ∈ handed calls, IsProper pair := by decide
  have same : ∀ pair, pair ∈ handed calls ↔ pair ∈ handed calls' := by
    intro pair
    simp only [calls, calls', handed, SpanCall.pairs, List.flatMap_cons, List.flatMap_nil,
      List.mem_append, List.mem_cons, List.not_mem_nil, or_false]
    tauto
  have spans : (build calls).spans = [⟨0, 5⟩, ⟨5, 5⟩] := by decide
  obtain ⟨equal, merges, -⟩ := build_canonical proper same
  rw [spans] at merges
  exact ⟨spans, equal, merges⟩

end SpanSet

end TableSearch
