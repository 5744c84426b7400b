import TableSearch.Pattern.Matcher

/-! # A match lies inside the text

A pattern that is tried at a place of a text hands only places of the text to what follows it
(`TableSearch.Node.run_lands`).  Every span that a pattern finds therefore ends inside the text
(`TableSearch.Node.stop_le_of_mem_findAll`), however it repeats, looks around or refers back.
-/

namespace TableSearch

namespace Node

variable {text : Array Char} {node : Node} {here found : MatchState} {size : Nat}

/-- Whether a step from a place of a text answers what the continuation answers at some place of the
text. -/
def Lands (size : Nat) (step : MatchState → Continuation → Option MatchState) : Prop :=
  ∀ here next found, here.position ≤ size → step here next = some found →
    ∃ place, place.position ≤ size ∧ next place = some found

/-- A step that nothing follows ends at a place of the text. -/
theorem Lands.position_le {step : MatchState → Continuation → Option MatchState}
    (lands : Lands size step) (inside : here.position ≤ size)
    (answer : step here some = some found) : found.position ≤ size := by
  obtain ⟨place, within, same⟩ := lands here some found inside answer
  cases same
  exact within

/-! ## One part after another -/

/-- A text that is repeated at a place inside a text ends inside it. -/
theorem repeatsAt_le {rule : CaseRule} {source target count : Nat} (inside : target ≤ text.size)
    (again : repeatsAt text rule source target count = true) : target + count ≤ text.size := by
  induction count generalizing source target with
  | zero => exact inside
  | succ count ih =>
      rw [repeatsAt, Bool.and_eq_true] at again
      obtain ⟨first, later⟩ := again
      split at first
      · rename_i c d _ known
        obtain ⟨within, -⟩ := Array.getElem?_eq_some_iff.mp known
        have rest := ih within later
        omega
      · cases first

/-! ## Repetitions -/

section Loops

variable {step : MatchState → Continuation → Option MatchState} {least : Nat} {most : Option Nat}
  {next : Continuation} {fuel count : Nat} {last : Option Nat}

/-- A greedy repetition goes on from a place of the text, if each of its rounds does. -/
theorem runGreedy_lands (lands : Lands size step) (inside : here.position ≤ size)
    (answer : runGreedy step least most next fuel count last here = some found) :
    ∃ place, place.position ≤ size ∧ next place = some found := by
  induction fuel generalizing count last here with
  | zero => cases answer
  | succ fuel ih =>
      rw [runGreedy] at answer
      split at answer
      · obtain ⟨mid, within, later⟩ := lands _ _ _ inside answer
        exact ih within later
      · rcases Option.or_eq_some_iff.mp answer with longer | ⟨-, ends⟩
        · rw [Option.ite_none_right_eq_some] at longer
          obtain ⟨mid, within, later⟩ := lands _ _ _ inside longer.2
          exact ih within later
        · exact ⟨here, inside, ends⟩

/-- A lazy repetition goes on from a place of the text, if each of its rounds does. -/
theorem runLazy_lands (lands : Lands size step) (inside : here.position ≤ size)
    (answer : runLazy step least most next fuel count last here = some found) :
    ∃ place, place.position ≤ size ∧ next place = some found := by
  induction fuel generalizing count last here with
  | zero => cases answer
  | succ fuel ih =>
      rw [runLazy] at answer
      split at answer
      · obtain ⟨mid, within, later⟩ := lands _ _ _ inside answer
        exact ih within later
      · split at answer
        · rename_i ends
          exact ⟨here, inside, ends.trans answer⟩
        · rw [Option.ite_none_right_eq_some] at answer
          obtain ⟨mid, within, later⟩ := lands _ _ _ inside answer.2
          exact ih within later

/-- A possessive repetition ends at a place of the text, if each of its rounds does. -/
theorem runPossessive_le (lands : Lands size step) (inside : here.position ≤ size)
    (answer : runPossessive step least most fuel count last here = some found) :
    found.position ≤ size := by
  induction fuel generalizing count last here with
  | zero => cases answer
  | succ fuel ih =>
      rw [runPossessive] at answer
      split at answer
      · split at answer
        · rename_i mid first
          exact ih (lands.position_le inside first) answer
        · cases answer
      · split at answer
        · split at answer
          · rename_i mid first
            exact ih (lands.position_le inside first) answer
          · cases answer
            exact inside
        · cases answer
          exact inside

end Loops

/-! ## All parts of a pattern -/

/-- **Steps.** A pattern that is tried at a place of a text goes on at places of the text only.  The
induction is on the pattern; a part that only looks around goes on where it was tried. -/
theorem run_lands (text : Array Char) (node : Node) : Lands text.size (node.run text) := by
  induction node with
  | empty =>
      intro here next found inside answer
      exact ⟨here, inside, answer⟩
  | char set =>
      intro here next found inside answer
      rw [run] at answer
      split at answer
      · rename_i c known
        obtain ⟨within, -⟩ := Array.getElem?_eq_some_iff.mp known
        rw [Option.ite_none_right_eq_some] at answer
        exact ⟨here.advance, within, answer.2⟩
      · cases answer
  | anchor condition =>
      intro here next found inside answer
      rw [run, Option.ite_none_right_eq_some] at answer
      exact ⟨here, inside, answer.2⟩
  | backref group rule width =>
      intro here next found inside answer
      rw [run] at answer
      split at answer
      · rw [Option.ite_none_right_eq_some] at answer
        exact ⟨_, repeatsAt_le inside answer.1, answer.2⟩
      · cases answer
  | capture group body ih =>
      intro here next found inside answer
      rw [run] at answer
      obtain ⟨inner, within, later⟩ := ih (here.mark (2 * group)) _ found inside answer
      exact ⟨inner.mark (2 * group + 1), within, later⟩
  | seq first second ihFirst ihSecond =>
      intro here next found inside answer
      rw [run] at answer
      obtain ⟨mid, within, later⟩ := ihFirst _ _ _ inside answer
      exact ihSecond _ _ _ within later
  | alt first second ihFirst ihSecond =>
      intro here next found inside answer
      rw [run] at answer
      split at answer
      · rename_i taken
        exact ihFirst _ _ _ inside (taken.trans answer)
      · exact ihSecond _ _ _ inside answer
  | loop greed least most body ih =>
      intro here next found inside answer
      cases greed with
      | greedy => exact runGreedy_lands ih inside answer
      | «lazy» => exact runLazy_lands ih inside answer
      | possessive =>
          simp only [run] at answer
          split at answer
          · rename_i mid taken
            exact ⟨mid, runPossessive_le ih inside taken, answer⟩
          · cases answer
  | ahead negated body ih =>
      intro here next found inside answer
      simp only [run] at answer
      split at answer
      · rename_i inner _
        exact ⟨{ inner with position := here.position }, inside, answer⟩
      · exact ⟨here, inside, answer⟩
      · cases answer
  | behind negated width body ih =>
      intro here next found inside answer
      simp only [run] at answer
      split at answer
      · rename_i inner _
        exact ⟨{ inner with position := here.position }, inside, answer⟩
      · exact ⟨here, inside, answer⟩
      · cases answer
  | atomic body ih =>
      intro here next found inside answer
      rw [run] at answer
      split at answer
      · rename_i inner taken
        exact ⟨inner, ih.position_le inside taken, answer⟩
      · cases answer
  | choose group yes no ihYes ihNo =>
      intro here next found inside answer
      rw [run] at answer
      split at answer
      · exact ihYes _ _ _ inside answer
      · exact ihNo _ _ _ inside answer

/-! ## Searching -/

/-- A match ends inside the text. -/
theorem matchAt_le {start stop : Nat} {mustAdvance : Bool} (inside : start ≤ text.size)
    (answer : node.matchAt text start mustAdvance = some stop) : stop ≤ text.size := by
  obtain ⟨found, ran, rfl⟩ := Option.map_eq_some_iff.mp answer
  obtain ⟨place, within, accepted⟩ := run_lands text node _ _ _ inside ran
  rw [Option.ite_none_left_eq_some] at accepted
  cases accepted.2
  exact within

/-- The first match from a place on ends inside the text. -/
theorem findFrom_le {start fuel : Nat} {mustAdvance : Bool} {span : Span}
    (inside : start ≤ text.size)
    (answer : node.findFrom text start mustAdvance fuel = some span) : span.stop ≤ text.size := by
  induction fuel generalizing start mustAdvance with
  | zero => cases answer
  | succ fuel ih =>
      rw [findFrom] at answer
      split at answer
      · rename_i stop matched
        cases answer
        exact matchAt_le inside matched
      · rw [Option.ite_none_right_eq_some] at answer
        exact ih answer.1 answer.2

/-- All matches from a place on end inside the text. -/
theorem findAllFrom_le {start fuel : Nat} {mustAdvance : Bool} (inside : start ≤ text.size) :
    ∀ span ∈ node.findAllFrom text start mustAdvance fuel, span.stop ≤ text.size := by
  induction fuel generalizing start mustAdvance with
  | zero =>
      intro span member
      cases member
  | succ fuel ih =>
      intro span member
      rw [findAllFrom] at member
      split at member
      · rename_i first answer
        have within := findFrom_le inside answer
        rcases List.mem_cons.mp member with rfl | later
        · exact within
        · exact ih within span later
      · cases member

/-- **Matches.** Every span that a pattern finds ends inside the text. -/
theorem stop_le_of_mem_findAll {text : Text} {span : Span} (member : span ∈ node.findAll text) :
    span.stop ≤ text.length :=
  findAllFrom_le (Nat.zero_le _) span member

end Node

end TableSearch
