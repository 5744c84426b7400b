import Mathlib.Tactic.Tauto
import TableSearch.Proofs.Span.Region

/-! # Insertion and union of span sets

A list of spans in order is the normal form of any list with the same region
(`TableSearch.Span.NormalForm`), and there is only one (`TableSearch.Span.NormalForm.unique`). A
span set that has been built span by span is in order, and its list is the normal form of all the
spans that were put in (`TableSearch.SpanSet.insert_normal`, `TableSearch.SpanSet.ofList_normal`).
Sets in order therefore form a semilattice under union: it is commutative, associative and
idempotent, and the empty set is neutral.
-/

namespace TableSearch

namespace Span

variable {s a b : Span} {spans before middle result other : List Span} {offset : Nat}

/-- A list of spans in order with the region of other spans. A place that is crossed loses its
mark. -/
structure NormalForm (result spans : List Span) : Prop where
  apart : Apart result
  covered : ∀ offset, Covered result offset ↔ Covered spans offset
  crossed : ∀ offset, Crossed result offset ↔ Crossed spans offset
  marked : ∀ offset, ¬ Crossed result offset → (Marked result offset ↔ Marked spans offset)

namespace NormalForm

theorem self (apart : Apart spans) : NormalForm spans spans :=
  ⟨apart, fun _ => Iff.rfl, fun _ => Iff.rfl, fun _ _ => Iff.rfl⟩

/-- Order and repetition of the spans do not matter. -/
theorem of_mem_iff (normal : NormalForm result spans) (same : ∀ s, s ∈ spans ↔ s ∈ other) :
    NormalForm result other where
  apart := normal.apart
  covered := by
    intro offset
    rw [normal.covered]
    simp only [Covered, same]
  crossed := by
    intro offset
    rw [normal.crossed]
    simp only [Crossed, same]
  marked := by
    intro offset free
    rw [normal.marked offset free, Marked, Marked, same]

theorem of_perm (normal : NormalForm result spans) (perm : spans.Perm other) :
    NormalForm result other :=
  normal.of_mem_iff fun _ => perm.mem_iff

/-- Some of the spans may be replaced by their normal form. -/
theorem trans (normal : NormalForm result (before ++ middle))
    (inner : NormalForm middle spans) : NormalForm result (before ++ spans) where
  apart := normal.apart
  covered := by
    intro offset
    rw [normal.covered, covered_append, covered_append, inner.covered]
  crossed := by
    intro offset
    rw [normal.crossed, crossed_append, crossed_append, inner.crossed]
  marked := by
    intro offset free
    have clear : ¬ Crossed middle offset := fun crossed =>
      free ((normal.crossed offset).mpr (crossed_append.mpr (Or.inr crossed)))
    rw [normal.marked offset free, marked_append, marked_append, inner.marked offset clear]

/-- Spans to the left that reach into nothing may be put in front. -/
theorem append (normal : NormalForm result spans) (left : Apart before)
    (clear : ∀ t ∈ before, ∀ u ∈ result, t.Before u) :
    NormalForm (before ++ result) (before ++ spans) where
  apart := left.append normal.apart clear
  covered := by
    intro offset
    rw [covered_append, covered_append, normal.covered]
  crossed := by
    intro offset
    rw [crossed_append, crossed_append, normal.crossed]
  marked := by
    intro offset free
    rw [crossed_append, not_or] at free
    rw [marked_append, marked_append, normal.marked offset free.2]

/-- Two overlapping spans may be put in place of their hull. The first one is not empty, and an
empty second one lies strictly inside the hull, so neither leaves a mark. -/
theorem of_hull (first : a.start ≤ b.start) (reaches : b.start < a.stop)
    (longer : b.start = a.start → a.stop ≤ b.stop)
    (normal : NormalForm result (⟨a.start, max a.stop b.stop⟩ :: spans)) :
    NormalForm result (a :: b :: spans) where
  apart := normal.apart
  covered := by
    intro offset
    rw [normal.covered, covered_cons, covered_cons, covered_cons, ← or_assoc]
    refine or_congr_left ?_
    simp only [Covers]
    omega
  crossed := by
    intro offset
    rw [normal.crossed, crossed_cons, crossed_cons, crossed_cons, ← or_assoc]
    refine or_congr_left ?_
    simp only [Crosses]
    omega
  marked := by
    intro offset free
    have inside := mt (normal.crossed offset).mpr free
    rw [crossed_cons, not_or] at inside
    simp only [Crosses] at inside
    rw [normal.marked offset free]
    simp only [Marked, List.mem_cons]
    have hull : ¬ (⟨offset, offset⟩ : Span) = ⟨a.start, max a.stop b.stop⟩ := by
      rw [mk.injEq]
      omega
    have left : ¬ (⟨offset, offset⟩ : Span) = a := by
      rintro rfl
      exact absurd reaches (Nat.not_lt.mpr first)
    have right : ¬ (⟨offset, offset⟩ : Span) = b := by
      rintro rfl
      simp only at *
      omega
    simp only [hull, left, right, false_or]

/-- **Uniqueness.** Two lists with the same spans have the same normal form. -/
theorem unique (left : NormalForm result spans) (right : NormalForm other before)
    (same : ∀ s, s ∈ spans ↔ s ∈ before) : result = other := by
  have moved := left.of_mem_iff same
  have crossed : ∀ offset, Crossed result offset ↔ Crossed other offset := by
    intro offset
    rw [moved.crossed, right.crossed]
  refine left.apart.eq_of_regions right.apart ?_ crossed ?_
  · intro offset
    rw [moved.covered, right.covered]
  · intro offset
    by_cases crosses : Crossed result offset
    · constructor
      · intro marked
        exact (left.apart.not_crossed_of_marked marked crosses).elim
      · intro marked
        exact (right.apart.not_crossed_of_marked marked ((crossed offset).mp crosses)).elim
    · rw [moved.marked offset crosses, right.marked offset (mt (crossed offset).mpr crosses)]

end NormalForm

end Span

namespace SpanSet

open TableSearch.Span

variable {s t : Span} {rest before after : List Span} {offset : Nat}

/-! ## Swallowing the spans to the right -/

theorem absorb_nil : absorb s [] = [s] := rfl

theorem absorb_of_lt (reaches : t.start < s.stop) :
    absorb s (t :: rest) = absorb ⟨s.start, max s.stop t.stop⟩ rest := by
  rw [absorb, if_pos reaches]

theorem absorb_of_le (ends : s.stop ≤ t.start) :
    absorb s (t :: rest) = if t = s then t :: rest else s :: t :: rest := by
  rw [absorb, if_neg (Nat.not_lt.mpr ends)]

/-- What does not precede a span does not precede its hull with one that it reaches. -/
theorem not_precedes_hull (apart : Apart (t :: rest)) (reaches : t.start < s.stop)
    (later : ∀ u ∈ t :: rest, u.precedes s = false) :
    ∀ u ∈ rest, u.precedes ⟨s.start, max s.stop t.stop⟩ = false := by
  intro u member
  have first := not_precedes_iff.mp (later t List.mem_cons_self)
  have proper := apart.proper t List.mem_cons_self
  have ends := (apart.head_before u member).1
  rw [not_precedes_iff]
  simp only
  omega

/-- A span put before later ones stays the first. -/
theorem not_precedes_of_mem_absorb (apart : Apart rest)
    (later : ∀ u ∈ rest, u.precedes s = false) :
    ∀ u ∈ absorb s rest, u.precedes s = false := by
  induction rest generalizing s with
  | nil =>
      intro u member
      rw [absorb_nil, List.mem_singleton] at member
      rw [member, not_precedes_iff]
      omega
  | cons t rest ih =>
      intro u member
      rcases Nat.lt_or_ge t.start s.stop with reaches | ends
      · rw [absorb_of_lt reaches] at member
        have answer := not_precedes_iff.mp
          (ih apart.tail (not_precedes_hull apart reaches later) u member)
        simp only at answer
        rw [not_precedes_iff]
        omega
      · have inside : u ∈ s :: t :: rest := by
          rw [absorb_of_le ends] at member
          split at member
          · exact List.mem_cons_of_mem s member
          · exact member
        rcases List.mem_cons.mp inside with head | member
        · rw [head, not_precedes_iff]
          omega
        · exact later u member

/-- A span put before later ones gives the normal form of them all. The induction swallows the
spans that start inside the one that is put, and it stops at the first that does not. -/
theorem absorb_normal (apart : Apart rest) (proper : s.start ≤ s.stop)
    (later : ∀ u ∈ rest, u.precedes s = false) : NormalForm (absorb s rest) (s :: rest) := by
  induction rest generalizing s with
  | nil =>
      rw [absorb_nil]
      exact .self (Apart.nil.cons proper fun t member => (List.not_mem_nil member).elim)
  | cons t rest ih =>
      have first := not_precedes_iff.mp (later t List.mem_cons_self)
      rcases Nat.lt_or_ge t.start s.stop with reaches | ends
      · rw [absorb_of_lt reaches]
        have hull := not_precedes_hull apart reaches later
        have wide : s.start ≤ max s.stop t.stop := by omega
        exact (ih apart.tail wide hull).of_hull (by omega) reaches (by omega)
      · rw [absorb_of_le ends]
        by_cases same : t = s
        · rw [if_pos same]
          subst same
          refine (NormalForm.self apart).of_mem_iff fun u => ?_
          rw [List.mem_cons, List.mem_cons, List.mem_cons, or_self_left]
        · rw [if_neg same]
          refine .self (apart.cons proper ?_)
          intro u member
          rcases List.mem_cons.mp member with rfl | member
          · exact ⟨ends, fun equal => same equal.symm⟩
          · obtain ⟨between, _⟩ := apart.head_before u member
            have width := apart.proper t List.mem_cons_self
            refine ⟨by omega, ?_⟩
            rintro rfl
            exact same (Span.eq_of_ends (by omega) (by omega))

/-! ## Insertion -/

/-- Whether the spans of a set are proper and stand apart from left to right. -/
def Ordered (set : SpanSet) : Prop :=
  Apart set.spans

theorem ordered_empty : empty.Ordered :=
  Apart.nil

/-- A list in order splits at the place of a span: what stands before the place precedes the span,
and nothing from the place on does. -/
theorem exists_split {spans : List Span} (apart : Apart spans) (s : Span) :
    ∃ before after, spans = before ++ after ∧
      spans.takeWhile (·.precedes s) = before ∧ spans.dropWhile (·.precedes s) = after ∧
      (∀ t ∈ before, t.precedes s = true) ∧ ∀ t ∈ after, t.precedes s = false := by
  refine ⟨_, _, List.takeWhile_append_dropWhile.symm, rfl, rfl,
    List.all_eq_true.mp List.all_takeWhile, ?_⟩
  induction spans with
  | nil =>
      intro t member
      exact (List.not_mem_nil member).elim
  | cons u spans ih =>
      intro t member
      rw [List.dropWhile_cons] at member
      split at member
      · exact ih apart.tail t member
      · rename_i stays
        have first := not_precedes_iff.mp (Bool.eq_false_iff.mpr stays)
        rcases List.mem_cons.mp member with rfl | member
        · exact not_precedes_iff.mpr first
        · have ordered := (List.pairwise_cons.mp apart.pairwise_precedes).1 t member
          rw [precedes_iff] at ordered
          rw [not_precedes_iff]
          omega

/-- What stands before the place of a span, and does not reach into it, stands before all that the
span becomes there. -/
theorem before_of_mem_absorb (apart : Apart after) (later : ∀ t ∈ after, t.precedes s = false)
    (ends : t.stop ≤ s.start) (precedes : t.precedes s = true) :
    ∀ u ∈ absorb s after, t.Before u := by
  intro u member
  have first := not_precedes_of_mem_absorb apart later u member
  refine ⟨?_, ?_⟩
  · have starts := not_precedes_iff.mp first
    omega
  · rintro rfl
    exact Bool.noConfusion (precedes.symm.trans first)

section Places

variable {init : List Span} {left : Span}

/-- A span put at its place, which the span to the left of the place does not reach. -/
theorem absorb_apart_normal (apart : Apart (before ++ after)) (proper : s.start ≤ s.stop)
    (precede : ∀ t ∈ before, t.precedes s = true) (later : ∀ t ∈ after, t.precedes s = false)
    (ends : ∀ t ∈ before, t.stop ≤ s.start) :
    NormalForm (before ++ absorb s after) (s :: (before ++ after)) := by
  have both := absorb_normal apart.append_right proper later
  refine (both.append apart.append_left ?_).of_perm List.perm_middle
  intro t inside
  exact before_of_mem_absorb apart.append_right later (ends t inside) (precede t inside)

/-- A span put at its place, which the span to the left of the place reaches.  The two become one
hull, which nothing before the place reaches. -/
theorem absorb_hull_normal (apart : Apart (init ++ left :: after)) (reaches : s.start < left.stop)
    (precedes : left.precedes s = true) (proper : s.start ≤ s.stop) :
    NormalForm (init ++ absorb ⟨left.start, max s.stop left.stop⟩ after)
      (s :: (init ++ left :: after)) := by
  have rest := apart.append_right
  have first := precedes_iff.mp precedes
  have later : ∀ t ∈ after, t.precedes ⟨left.start, max s.stop left.stop⟩ = false := by
    intro t inside
    have ends := (rest.head_before t inside).1
    rw [not_precedes_iff]
    simp only
    omega
  have hull := absorb_normal rest.tail (by simp only; omega) later
  rw [Nat.max_comm] at hull later ⊢
  have both := (hull.of_hull (by omega) reaches (by omega)).of_perm (List.Perm.swap _ _ _)
  refine (both.append apart.append_left ?_).of_perm List.perm_middle
  intro t inside
  have ends := (apart.append_before t inside left List.mem_cons_self).1
  have width := apart.append_left.proper t inside
  refine before_of_mem_absorb rest.tail later ends (precedes_iff.mpr ?_)
  simp only
  omega

end Places

/-- **Insertion.** A proper span put into a set in order gives the normal form of them all. -/
theorem insert_normal {set : SpanSet} (ordered : set.Ordered) (proper : s.start ≤ s.stop) :
    NormalForm (set.insert s).spans (s :: set.spans) := by
  obtain ⟨spans⟩ := set
  obtain ⟨before, after, rfl, taken, dropped, precede, later⟩ := exists_split ordered s
  have apart : Apart (before ++ after) := ordered
  simp only [insert, taken, dropped]
  cases last : before.getLast? with
  | none =>
      rw [List.getLast?_eq_none_iff] at last
      subst last
      exact absorb_normal apart proper later
  | some left =>
      obtain ⟨init, rfl⟩ := List.getLast?_eq_some_iff.mp last
      have member : left ∈ init ++ [left] := List.mem_append_right init List.mem_cons_self
      by_cases reaches : s.start < left.stop
      · simp only [reaches, ↓reduceIte, List.dropLast_concat, List.append_assoc,
          List.singleton_append] at apart ⊢
        exact absorb_hull_normal apart reaches (precede left member) proper
      · simp only [reaches, ↓reduceIte]
        refine absorb_apart_normal apart proper precede later ?_
        intro t inside
        rcases List.mem_append.mp inside with early | final
        · have ends := (apart.append_left.append_before t early left List.mem_cons_self).1
          have width := apart.append_left.proper left member
          omega
        · rw [List.mem_singleton.mp final]
          omega

/-- A span that absorbs others is among what remains. -/
theorem absorb_ne_nil : absorb s rest ≠ [] := by
  induction rest generalizing s with
  | nil => exact List.cons_ne_nil s []
  | cons t rest ih =>
      rw [absorb]
      split
      · exact ih
      · split
        · exact List.cons_ne_nil t rest
        · exact List.cons_ne_nil s (t :: rest)

/-- A set into which a span was put is not empty. -/
@[simp] theorem isEmpty_insert {set : SpanSet} : (set.insert s).isEmpty = false := by
  rw [isEmpty, List.isEmpty_eq_false_iff]
  simp only [insert]
  split
  · split
    · exact List.append_ne_nil_of_right_ne_nil _ absorb_ne_nil
    · exact List.append_ne_nil_of_right_ne_nil _ absorb_ne_nil
  · exact absorb_ne_nil

/-! ## Union -/

/-- Proper spans put one by one into a set in order give the normal form of them all. -/
theorem foldl_insert_normal {more : List Span} {set : SpanSet} (ordered : set.Ordered)
    (proper : ∀ t ∈ more, t.start ≤ t.stop) :
    NormalForm (more.foldl insert set).spans (more ++ set.spans) := by
  induction more generalizing set with
  | nil => exact .self ordered
  | cons t more ih =>
      rw [List.forall_mem_cons] at proper
      have first := insert_normal ordered proper.1
      exact ((ih first.apart proper.2).trans first).of_perm List.perm_middle

/-- **Set of a list.** The set of proper spans is the normal form of their list. -/
theorem ofList_normal {spans : List Span} (proper : ∀ t ∈ spans, t.start ≤ t.stop) :
    NormalForm (ofList spans).spans spans := by
  have normal := foldl_insert_normal ordered_empty proper
  rw [empty, List.append_nil] at normal
  exact normal

theorem ofList_ordered {spans : List Span} (proper : ∀ t ∈ spans, t.start ≤ t.stop) :
    (ofList spans).Ordered :=
  (ofList_normal proper).apart

/-- Spans that stand apart are kept as they are. -/
theorem spans_ofList_of_apart {spans : List Span} (apart : Apart spans) :
    (ofList spans).spans = spans :=
  (ofList_normal apart.proper).unique (.self apart) fun _ => Iff.rfl

/-- A set stays empty only if nothing is put in. -/
@[simp] theorem isEmpty_foldl_insert {more : List Span} {set : SpanSet} :
    (more.foldl insert set).isEmpty = (set.isEmpty && more.isEmpty) := by
  induction more generalizing set with
  | nil => rw [List.foldl_nil, List.isEmpty_nil, Bool.and_true]
  | cons t more ih =>
      rw [List.foldl_cons, ih, isEmpty_insert, Bool.false_and, List.isEmpty_cons, Bool.and_false]

section Semilattice

variable {first second third : SpanSet}

/-- **Union.** The union of two sets in order is the normal form of their spans. -/
theorem union_normal (left : first.Ordered) (right : second.Ordered) :
    NormalForm (first.union second).spans (second.spans ++ first.spans) :=
  foldl_insert_normal left right.proper

theorem union_ordered (left : first.Ordered) (right : second.Ordered) :
    (first.union second).Ordered :=
  (union_normal left right).apart

/-- A union is empty exactly if both sets are. -/
@[simp] theorem isEmpty_union :
    (first.union second).isEmpty = (first.isEmpty && second.isEmpty) :=
  isEmpty_foldl_insert

@[simp] theorem union_empty : first.union empty = first := rfl

theorem eq_of_spans_eq (same : first.spans = second.spans) : first = second := by
  cases first
  cases second
  cases same
  rfl

@[simp] theorem empty_union (ordered : first.Ordered) : empty.union first = first := by
  refine eq_of_spans_eq ((union_normal ordered_empty ordered).unique (.self ordered) ?_)
  intro s
  rw [empty, List.append_nil]

@[simp] theorem union_self (ordered : first.Ordered) : first.union first = first := by
  refine eq_of_spans_eq ((union_normal ordered ordered).unique (.self ordered) ?_)
  intro s
  rw [List.mem_append, or_self]

theorem union_comm (left : first.Ordered) (right : second.Ordered) :
    first.union second = second.union first := by
  refine eq_of_spans_eq ((union_normal left right).unique (union_normal right left) ?_)
  intro s
  rw [List.mem_append, List.mem_append, or_comm]

/-- Sets in order are united in any grouping. -/
theorem union_assoc (left : first.Ordered) (middle : second.Ordered) (right : third.Ordered) :
    (first.union second).union third = first.union (second.union third) := by
  have inner := union_normal left middle
  have outer := (union_normal (union_ordered left middle) right).trans inner
  have other := union_normal left (union_ordered middle right)
  have spread := (other.of_perm List.perm_append_comm).trans (union_normal middle right)
  refine eq_of_spans_eq (outer.unique spread ?_)
  intro s
  simp only [List.mem_append]
  tauto

end Semilattice

end SpanSet

end TableSearch
