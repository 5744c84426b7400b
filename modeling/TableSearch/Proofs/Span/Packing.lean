import Mathlib.Data.Finset.Card
import Mathlib.Order.Bounds.Defs
import Mathlib.Logic.Pairwise
import TableSearch.Proofs.Span.Union

/-! # As many disjoint spans as possible

A sweep through the spans of some kind takes from left to right, each time, one that ends first among
those that begin at or after the end of the one before (`TableSearch.Span.Sweep`).

`TableSearch.Span.Sweep.isGreatest`: no other choice of pairwise disjoint spans of that kind has more of
them.  The argument is the exchange of a span for the one that the sweep takes: of the spans that begin
before it ends, a disjoint choice has at most one.
-/

namespace TableSearch

namespace Span

/-- Spans of a kind from left to right, each of which ends first among those that begin at or after the
end of the one before; the first begins at or after an offset. -/
inductive Sweep (eligible : Span → Prop) : Nat → List Span → Prop
  | done {offset : Nat} (none : ∀ s, eligible s → s.start < offset) : Sweep eligible offset []
  | step {offset : Nat} {s : Span} {later : List Span} (member : eligible s)
      (after : offset ≤ s.start) (first : ∀ t, eligible t → offset ≤ t.start → s.stop ≤ t.stop)
      (rest : Sweep eligible s.stop later) : Sweep eligible offset (s :: later)

/-- Whether spans are of a kind and pairwise disjoint. -/
structure IsPacking (eligible : Span → Prop) (family : Finset Span) : Prop where
  eligible : ∀ s ∈ family, eligible s
  disjoint : (family : Set Span).Pairwise fun s t => ∀ place, s.Covers place → ¬t.Covers place

namespace Sweep

variable {eligible : Span → Prop} {offset : Nat} {spans : List Span} {family : Finset Span}

theorem eligible_of_mem (sweep : Sweep eligible offset spans) : ∀ s ∈ spans, eligible s := by
  induction sweep with
  | done => exact List.forall_mem_nil _
  | step member _ _ _ ih => exact List.forall_mem_cons.mpr ⟨member, ih⟩

/-- A sweep takes no span that begins before the offset from which it goes on. -/
theorem start_ge (sweep : Sweep eligible offset spans)
    (proper : ∀ s, eligible s → s.start < s.stop) : ∀ s ∈ spans, offset ≤ s.start := by
  induction sweep with
  | done => exact List.forall_mem_nil _
  | @step offset s later member after _ _ ih =>
      refine List.forall_mem_cons.mpr ⟨after, fun t inside => ?_⟩
      have := ih t inside
      have := proper s member
      omega

/-- A sweep takes a span exactly if there is one that begins at or after the offset. -/
theorem ne_nil_iff (sweep : Sweep eligible offset spans) :
    spans ≠ [] ↔ ∃ s, eligible s ∧ offset ≤ s.start := by
  cases sweep with
  | done none =>
      refine iff_of_false (fun filled => filled rfl) ?_
      rintro ⟨s, member, after⟩
      exact absurd (none s member) (Nat.not_lt.mpr after)
  | @step _ s later member after first rest =>
      exact iff_of_true (List.cons_ne_nil s later) ⟨s, member, after⟩

/-- The spans of a sweep stand apart. -/
theorem apart (sweep : Sweep eligible offset spans) (proper : ∀ s, eligible s → s.start < s.stop) :
    Apart spans := by
  induction sweep with
  | done => exact .nil
  | @step offset s later member after first rest ih =>
      have filled := proper s member
      refine .cons ih (Nat.le_of_lt filled) fun t inside => ?_
      have behind := rest.start_ge proper t inside
      refine ⟨behind, ?_⟩
      rintro rfl
      omega

/-- The spans of a sweep are pairwise disjoint. -/
theorem isPacking (sweep : Sweep eligible offset spans)
    (proper : ∀ s, eligible s → s.start < s.stop) : IsPacking eligible spans.toFinset := by
  constructor
  · intro s member
    exact sweep.eligible_of_mem s (List.mem_toFinset.mp member)
  · rintro s left t right differs place ⟨starts, stops⟩ ⟨starts', stops'⟩
    rcases (sweep.apart proper).eq_or_disjoint (List.mem_toFinset.mp left)
      (List.mem_toFinset.mp right) with same | apart
    · exact differs same
    · omega

/-- Disjoint spans that begin at or after an offset are at most as many as those of a sweep from that
offset. -/
theorem card_le (sweep : Sweep eligible offset spans) (packing : IsPacking eligible family)
    (behind : ∀ s ∈ family, offset ≤ s.start) : family.card ≤ spans.length := by
  induction sweep generalizing family with
  | @done offset none =>
      rw [List.length_nil, Nat.le_zero, Finset.card_eq_zero, Finset.eq_empty_iff_forall_notMem]
      intro s member
      have := none s (packing.eligible s member)
      have := behind s member
      omega
  | @step offset s later member after first rest ih =>
      -- The spans that begin before the first one of the sweep ends all hold its last place.
      have one : (family.filter fun t => ¬s.stop ≤ t.start).card ≤ 1 := by
        rw [Finset.card_le_one]
        intro t left u right
        rw [Finset.mem_filter] at left right
        by_contra differs
        have apart := packing.disjoint left.1 right.1 differs
        have reach := first t (packing.eligible t left.1) (behind t left.1)
        have reach' := first u (packing.eligible u right.1) (behind u right.1)
        refine apart (s.stop - 1) ⟨?_, ?_⟩ ⟨?_, ?_⟩
        all_goals omega
      have others : (family.filter fun t => s.stop ≤ t.start).card ≤ later.length := by
        refine ih ⟨fun t inside => ?_, packing.disjoint.mono ?_⟩ fun t inside => ?_
        · exact packing.eligible t (Finset.mem_filter.mp inside).1
        · exact Finset.coe_subset.mpr (Finset.filter_subset _ _)
        · exact (Finset.mem_filter.mp inside).2
      calc family.card
          = (family.filter fun t => s.stop ≤ t.start).card +
              (family.filter fun t => ¬s.stop ≤ t.start).card :=
            (Finset.card_filter_add_card_filter_not _).symm
        _ ≤ later.length + 1 := Nat.add_le_add others one

/-- **Sweeps.** A sweep has the greatest number of pairwise disjoint spans. -/
theorem isGreatest (sweep : Sweep eligible 0 spans) (proper : ∀ s, eligible s → s.start < s.stop) :
    IsGreatest {count | ∃ family, IsPacking eligible family ∧ family.card = count} spans.length := by
  constructor
  · refine ⟨spans.toFinset, sweep.isPacking proper, List.toFinset_card_of_nodup ?_⟩
    exact (sweep.apart proper).pairwise.imp fun before => before.2
  · rintro count ⟨family, packing, rfl⟩
    exact sweep.card_le packing fun s _ => Nat.zero_le _

end Sweep

end Span

end TableSearch
