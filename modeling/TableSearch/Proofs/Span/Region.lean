import Mathlib.Data.List.Pairwise
import Mathlib.Data.List.Sort
import TableSearch.Span.Basic

/-! # The region of a list of spans

A list of spans covers offsets, crosses the gaps between neighbouring offsets, and marks the places
of its empty spans. A list in which every span ends before the next one begins is determined by
these three sets (`TableSearch.Span.Apart.eq_of_regions`). Putting one more span into such a list
adds what the span covers and crosses, and unmarks the places that are crossed
(`TableSearch.SpanSet.insert_normal`).
-/

namespace TableSearch

namespace Span

variable {s t u : Span} {spans before after : List Span} {offset : Nat}

/-- Whether a span holds an offset. -/
def Covers (s : Span) (offset : Nat) : Prop :=
  s.start ≤ offset ∧ offset < s.stop

/-- Whether a span holds both an offset and the one before it. -/
def Crosses (s : Span) (offset : Nat) : Prop :=
  s.start < offset ∧ offset < s.stop

/-- Whether some span of a list holds an offset. -/
def Covered (spans : List Span) (offset : Nat) : Prop :=
  ∃ s ∈ spans, s.Covers offset

/-- Whether some span of a list holds both an offset and the one before it. -/
def Crossed (spans : List Span) (offset : Nat) : Prop :=
  ∃ s ∈ spans, s.Crosses offset

/-- Whether a list has an empty span at an offset. -/
def Marked (spans : List Span) (offset : Nat) : Prop :=
  ⟨offset, offset⟩ ∈ spans

/-- Whether a span ends before another one begins. They may touch, but differ. -/
def Before (s t : Span) : Prop :=
  s.stop ≤ t.start ∧ s ≠ t

/-- Spans from left to right, none of which reaches into a later one. -/
structure Apart (spans : List Span) : Prop where
  proper : ∀ s ∈ spans, s.start ≤ s.stop
  pairwise : spans.Pairwise Before

theorem precedes_iff : s.precedes t = true ↔
    s.start < t.start ∨ (s.start = t.start ∧ s.stop < t.stop) := by
  simp only [precedes, Bool.or_eq_true, Bool.and_eq_true, decide_eq_true_eq, beq_iff_eq]

theorem not_precedes_iff : s.precedes t = false ↔
    t.start < s.start ∨ (t.start = s.start ∧ t.stop ≤ s.stop) := by
  rw [← Bool.not_eq_true, precedes_iff]
  omega

theorem eq_of_ends (start : s.start = t.start) (stop : s.stop = t.stop) : s = t := by
  cases s
  cases t
  cases start
  cases stop
  rfl

@[simp] theorem covered_cons :
    Covered (s :: spans) offset ↔ s.Covers offset ∨ Covered spans offset := by
  simp only [Covered, List.exists_mem_cons_iff]

@[simp] theorem covered_append :
    Covered (before ++ after) offset ↔ Covered before offset ∨ Covered after offset := by
  simp only [Covered, List.mem_append, or_and_right, exists_or]

@[simp] theorem crossed_cons :
    Crossed (s :: spans) offset ↔ s.Crosses offset ∨ Crossed spans offset := by
  simp only [Crossed, List.exists_mem_cons_iff]

@[simp] theorem crossed_append :
    Crossed (before ++ after) offset ↔ Crossed before offset ∨ Crossed after offset := by
  simp only [Crossed, List.mem_append, or_and_right, exists_or]

@[simp] theorem marked_append :
    Marked (before ++ after) offset ↔ Marked before offset ∨ Marked after offset :=
  List.mem_append

namespace Apart

theorem nil : Apart [] :=
  ⟨fun _ member => (List.not_mem_nil member).elim, .nil⟩

theorem cons (apart : Apart spans) (proper : s.start ≤ s.stop) (first : ∀ t ∈ spans, s.Before t) :
    Apart (s :: spans) where
  proper := List.forall_mem_cons.mpr ⟨proper, apart.proper⟩
  pairwise := List.pairwise_cons.mpr ⟨first, apart.pairwise⟩

theorem tail (apart : Apart (s :: spans)) : Apart spans where
  proper := fun t member => apart.proper t (List.mem_cons_of_mem s member)
  pairwise := (List.pairwise_cons.mp apart.pairwise).2

theorem head_before (apart : Apart (s :: spans)) : ∀ t ∈ spans, s.Before t :=
  (List.pairwise_cons.mp apart.pairwise).1

/-- Spans that lie apart, behind others that do so and end before them, lie apart together. -/
theorem append (left : Apart before) (right : Apart after)
    (ordered : ∀ s ∈ before, ∀ t ∈ after, s.Before t) : Apart (before ++ after) where
  proper := fun s member =>
    (List.mem_append.mp member).elim (left.proper s) (right.proper s)
  pairwise := List.pairwise_append.mpr ⟨left.pairwise, right.pairwise, ordered⟩

theorem append_left (apart : Apart (before ++ after)) : Apart before where
  proper := fun s member => apart.proper s (List.mem_append_left after member)
  pairwise := (List.pairwise_append.mp apart.pairwise).1

theorem append_right (apart : Apart (before ++ after)) : Apart after where
  proper := fun s member => apart.proper s (List.mem_append_right before member)
  pairwise := (List.pairwise_append.mp apart.pairwise).2.1

theorem append_before (apart : Apart (before ++ after)) :
    ∀ s ∈ before, ∀ t ∈ after, s.Before t :=
  (List.pairwise_append.mp apart.pairwise).2.2

/-- Two spans of a list are the same span, or one ends before the other begins. -/
theorem eq_or_disjoint (apart : Apart spans) (left : s ∈ spans) (right : t ∈ spans) :
    s = t ∨ s.stop ≤ t.start ∨ t.stop ≤ s.start := by
  by_cases same : s = t
  · exact Or.inl same
  · have disjoint : spans.Pairwise fun s t => s.stop ≤ t.start ∨ t.stop ≤ s.start :=
      apart.pairwise.imp fun before => Or.inl before.1
    have symmetric : Std.Symm fun s t : Span => s.stop ≤ t.start ∨ t.stop ≤ s.start :=
      ⟨fun _ _ either => either.symm⟩
    exact Or.inr (disjoint.forall left right same)

/-- No span of a list crosses the start of another one. -/
theorem not_crossed_start (apart : Apart spans) (member : s ∈ spans) :
    ¬ Crossed spans s.start := by
  rintro ⟨t, other, starts, stops⟩
  have proper := apart.proper s member
  rcases apart.eq_or_disjoint member other with same | first | second
  · subst same
    exact Nat.lt_irrefl _ starts
  · omega
  · omega

/-- No span of a list crosses the end of another one. -/
theorem not_crossed_stop (apart : Apart spans) (member : s ∈ spans) :
    ¬ Crossed spans s.stop := by
  rintro ⟨t, other, starts, stops⟩
  have proper := apart.proper s member
  rcases apart.eq_or_disjoint member other with same | first | second
  · subst same
    exact Nat.lt_irrefl _ stops
  · omega
  · omega

/-- A place with an empty span is not crossed. -/
theorem not_crossed_of_marked (apart : Apart spans) (marked : Marked spans offset) :
    ¬ Crossed spans offset :=
  not_crossed_start apart marked

/-- The spans of a list that are not empty are the maximal runs of offsets that are covered and
crossed without a break. -/
theorem mem_iff_of_lt (apart : Apart spans) (nonempty : s.start < s.stop) :
    s ∈ spans ↔ Covered spans s.start ∧ ¬ Crossed spans s.start ∧ ¬ Crossed spans s.stop ∧
      ∀ offset, s.Crosses offset → Crossed spans offset := by
  constructor
  · intro member
    refine ⟨⟨s, member, Nat.le_refl _, nonempty⟩, apart.not_crossed_start member,
      apart.not_crossed_stop member, ?_⟩
    intro offset crosses
    exact ⟨s, member, crosses⟩
  · rintro ⟨⟨t, member, reaches, holds⟩, startFree, stopFree, crossed⟩
    have starts : t.start = s.start := by
      by_contra different
      exact startFree ⟨t, member, by omega, holds⟩
    have stops : t.stop = s.stop := by
      rcases Nat.lt_trichotomy t.stop s.stop with shorter | same | longer
      · exact (apart.not_crossed_stop member (crossed t.stop ⟨by omega, shorter⟩)).elim
      · exact same
      · exact (stopFree ⟨t, member, by omega, longer⟩).elim
    exact eq_of_ends starts stops ▸ member

/-- Spans from left to right stand in the order of their starts and ends. -/
theorem pairwise_precedes (apart : Apart spans) :
    spans.Pairwise fun s t => s.precedes t = true := by
  refine apart.pairwise.imp_of_mem ?_
  intro s t left right before
  have first := apart.proper s left
  have second := apart.proper t right
  rw [precedes_iff]
  by_contra neither
  have ends := before.1
  exact before.2 (eq_of_ends (by omega) (by omega))

/-- **Uniqueness.** Two lists of spans in order that cover, cross and mark the same offsets are
equal. -/
theorem eq_of_regions (left : Apart before) (right : Apart after)
    (covered : ∀ offset, Covered before offset ↔ Covered after offset)
    (crossed : ∀ offset, Crossed before offset ↔ Crossed after offset)
    (marked : ∀ offset, Marked before offset ↔ Marked after offset) : before = after := by
  have irreflexive : Std.Irrefl fun s t : Span => s.precedes t = true := ⟨fun s => by
    rw [precedes_iff]
    omega⟩
  have antisymmetric : Std.Antisymm fun s t : Span => s.precedes t = true := ⟨fun s t => by
    rw [precedes_iff, precedes_iff]
    omega⟩
  refine left.pairwise_precedes.eq_of_mem_iff right.pairwise_precedes ?_
  intro s
  rcases Nat.lt_trichotomy s.start s.stop with nonempty | empty | reversed
  · rw [left.mem_iff_of_lt nonempty, right.mem_iff_of_lt nonempty]
    simp only [covered, crossed]
  · have place : s = ⟨s.stop, s.stop⟩ := eq_of_ends empty rfl
    rw [place]
    exact marked s.stop
  · constructor
    · intro member
      exact absurd (left.proper s member) (Nat.not_le.mpr reversed)
    · intro member
      exact absurd (right.proper s member) (Nat.not_le.mpr reversed)

end Apart

end Span

end TableSearch
