import Mathlib.Data.List.Forall2
import TableSearch.Pattern.Parser
import TableSearch.Pattern.Matcher

/-! # Patterns that match alike

Two syntax trees are alike if they run alike on every text and agree in what a larger tree reads off
them: their width, whether they look to the left for texts of one width, and whether they repeat
(`TableSearch.Node.Alike`).  A tree made of alike parts is alike, and alike trees find the same
(`TableSearch.Node.Alike.findAll_eq`).
-/

namespace TableSearch

namespace CharItem

/-- Whether two members of a set take in the same characters in any case. -/
def Alike (item other : CharItem) : Prop :=
  ∀ c, other.takes .folded c = item.takes .folded c

theorem Alike.refl (item : CharItem) : item.Alike item :=
  fun _ => rfl

end CharItem

namespace CharSet

variable {items others : List CharItem} {complement : Bool} {c : Char}

/-- Character sets whose members take in the same characters in any case accept the same
characters. -/
theorem accepts_eq (alike : List.Forall₂ CharItem.Alike items others) :
    (⟨others, complement, .folded⟩ : CharSet).accepts c =
      (⟨items, complement, .folded⟩ : CharSet).accepts c := by
  have same : others.any (·.takes .folded c) = items.any (·.takes .folded c) := by
    induction alike with
    | nil => rfl
    | cons first _ ih => rw [List.any_cons, List.any_cons, first c, ih]
  rw [accepts, accepts, same]

end CharSet

namespace Node

/-! ## Runs of a tree from runs of its parts -/

section Run

variable {text : Array Char} {body first second : Node}

theorem run_capture {group : Nat} : (capture group body).run text = fun here next =>
    body.run text (here.mark (2 * group)) fun inner => next (inner.mark (2 * group + 1)) := rfl

theorem run_seq : (seq first second).run text = fun here next =>
    first.run text here fun mid => second.run text mid next := rfl

theorem run_alt : (alt first second).run text = fun here next =>
    match first.run text here next with
    | some found => some found
    | none => second.run text here next := rfl

/-- A repetition runs its body for at most one round more than there are characters left. -/
theorem run_loop {greed : Greed} {least : Nat} {most : Option Nat} :
    (loop greed least most body).run text = fun here next =>
      let rounds := least + (text.size - here.position) + 2
      match greed with
      | .greedy => runGreedy (body.run text) least most next rounds 0 none here
      | .lazy => runLazy (body.run text) least most next rounds 0 none here
      | .possessive =>
        match runPossessive (body.run text) least most rounds 0 none here with
        | some mid => next mid
        | none => none := rfl

theorem run_ahead {negated : Bool} : (ahead negated body).run text = fun here next =>
    match body.run text here some, negated with
    | some inner, false => next { inner with position := here.position }
    | none, true => next here
    | _, _ => none := rfl

/-- Looking to the left runs the body from as far before as it is wide, and goes on from here. -/
theorem run_behind {negated : Bool} {width : Width} :
    (behind negated width body).run text = fun here next =>
      let inner :=
        if width.least ≤ here.position then
          body.run text { here with position := here.position - width.least } some
        else none
      match inner, negated with
      | some inner, false => next { inner with position := here.position }
      | none, true => next here
      | _, _ => none := rfl

theorem run_atomic : (atomic body).run text = fun here next =>
    match body.run text here some with
    | some inner => next inner
    | none => none := rfl

theorem run_choose {group : Nat} : (choose group first second).run text = fun here next =>
    if (here.group? group).isSome then first.run text here next else second.run text here next :=
  rfl

end Run

/-- Whether two patterns match alike, by themselves and as a part of a larger one. -/
structure Alike (node other : Node) : Prop where
  run_eq : ∀ text, other.run text = node.run text
  width_eq : other.width = node.width
  looksBackFixed_eq : other.looksBackFixed = node.looksBackFixed
  repeats_eq : other.repeats = node.repeats

namespace Alike

variable {node other first second third fourth : Node}

theorem refl (node : Node) : node.Alike node :=
  ⟨fun _ => rfl, rfl, rfl, rfl⟩

/-! ## Parts -/

/-- Character sets that accept the same characters match alike. -/
theorem char {set others : CharSet} (same : ∀ c, others.accepts c = set.accepts c) :
    (Node.char set).Alike (.char others) := by
  refine ⟨fun text => ?_, rfl, rfl, rfl⟩
  funext here next
  rw [run, run]
  cases text[here.position]? with
  | none => rfl
  | some c => simp only [same c]

theorem capture (group : Nat) (body : node.Alike other) :
    (Node.capture group node).Alike (.capture group other) := by
  refine ⟨fun text => ?_, body.width_eq, body.looksBackFixed_eq, body.repeats_eq⟩
  rw [run_capture, run_capture, body.run_eq]

/-- Sequences of patterns that match alike do so, too. -/
theorem seq (left : first.Alike second) (right : third.Alike fourth) :
    (Node.seq first third).Alike (.seq second fourth) := by
  refine ⟨fun text => ?_, ?_, ?_, ?_⟩
  · rw [run_seq, run_seq, left.run_eq, right.run_eq]
  · rw [width, width, left.width_eq, right.width_eq]
  · rw [looksBackFixed, looksBackFixed, left.looksBackFixed_eq, right.looksBackFixed_eq]
  · rw [repeats, repeats, left.repeats_eq, right.repeats_eq]

/-- Choices between patterns that match alike do so, too. -/
theorem alt (left : first.Alike second) (right : third.Alike fourth) :
    (Node.alt first third).Alike (.alt second fourth) := by
  refine ⟨fun text => ?_, ?_, ?_, ?_⟩
  · rw [run_alt, run_alt, left.run_eq, right.run_eq]
  · rw [width, width, left.width_eq, right.width_eq]
  · rw [looksBackFixed, looksBackFixed, left.looksBackFixed_eq, right.looksBackFixed_eq]
  · rw [repeats, repeats, left.repeats_eq, right.repeats_eq]

/-- Repetitions of patterns that match alike do so, too. -/
theorem loop (greed : Greed) (least : Nat) (most : Option Nat) (body : node.Alike other) :
    (Node.loop greed least most node).Alike (.loop greed least most other) := by
  refine ⟨fun text => ?_, ?_, body.looksBackFixed_eq, rfl⟩
  · rw [run_loop, run_loop, body.run_eq]
  · rw [width, width, body.width_eq]

theorem ahead (negated : Bool) (body : node.Alike other) :
    (Node.ahead negated node).Alike (.ahead negated other) := by
  refine ⟨fun text => ?_, rfl, body.looksBackFixed_eq, body.repeats_eq⟩
  rw [run_ahead, run_ahead, body.run_eq]

/-- Looking to the left for patterns that match alike succeeds alike, since they are of the same
width. -/
theorem behind (negated : Bool) (body : node.Alike other) :
    (Node.behind negated node.width node).Alike (.behind negated other.width other) := by
  refine ⟨fun text => ?_, rfl, ?_, body.repeats_eq⟩
  · rw [run_behind, run_behind, body.run_eq, body.width_eq]
  · rw [looksBackFixed, looksBackFixed, body.width_eq, body.looksBackFixed_eq]

theorem atomic (body : node.Alike other) : (Node.atomic node).Alike (.atomic other) := by
  refine ⟨fun text => ?_, body.width_eq, body.looksBackFixed_eq, body.repeats_eq⟩
  rw [run_atomic, run_atomic, body.run_eq]

/-- Choices by the same group between patterns that match alike do so, too. -/
theorem choose (group : Nat) (left : first.Alike second) (right : third.Alike fourth) :
    (Node.choose group first third).Alike (.choose group second fourth) := by
  refine ⟨fun text => ?_, ?_, ?_, ?_⟩
  · rw [run_choose, run_choose, left.run_eq, right.run_eq]
  · rw [width, width, left.width_eq, right.width_eq]
  · rw [looksBackFixed, looksBackFixed, left.looksBackFixed_eq, right.looksBackFixed_eq]
  · rw [repeats, repeats, left.repeats_eq, right.repeats_eq]

/-- Sequences of any length match alike if their parts do. -/
theorem ofList {nodes others : List Node} (alike : List.Forall₂ Alike nodes others) :
    (Node.ofList nodes).Alike (.ofList others) := by
  induction alike with
  | nil => exact refl _
  | cons first rest ih =>
      cases rest with
      | nil => exact first
      | cons second rest => exact first.seq ih

/-! ## Findings -/

theorem matchAt_eq (alike : node.Alike other) (text : Array Char) :
    other.matchAt text = node.matchAt text := by
  funext start mustAdvance
  rw [matchAt, matchAt, alike.run_eq]

/-- The first match from a place on is the same for patterns that match alike. -/
theorem findFrom_eq (alike : node.Alike other) (text : Array Char) {start : Nat}
    {mustAdvance : Bool} {rounds : Nat} :
    other.findFrom text start mustAdvance rounds = node.findFrom text start mustAdvance rounds := by
  induction rounds generalizing start mustAdvance with
  | zero => rfl
  | succ rounds ih => rw [findFrom, findFrom, alike.matchAt_eq, ih]

/-- All matches from a place on are the same for patterns that match alike. -/
theorem findAllFrom_eq (alike : node.Alike other) (text : Array Char) {start : Nat}
    {mustAdvance : Bool} {rounds : Nat} :
    other.findAllFrom text start mustAdvance rounds =
      node.findAllFrom text start mustAdvance rounds := by
  induction rounds generalizing start mustAdvance with
  | zero => rfl
  | succ rounds ih =>
      rw [findAllFrom, findAllFrom, alike.findFrom_eq]
      cases node.findFrom text start mustAdvance (text.size + 1 - start) with
      | none => rfl
      | some span => simp only [ih]

/-- Patterns that match alike find the same. -/
theorem findAll_eq (alike : node.Alike other) (text : Text) : other.findAll text = node.findAll text :=
  alike.findAllFrom_eq text.toArray

end Alike

end Node

end TableSearch
