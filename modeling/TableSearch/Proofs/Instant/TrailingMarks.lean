import TableSearch.Instant.English
import TableSearch.Proofs.Instant.Longest

/-! # Punctuation behind an instant

A date should not take the punctuation behind it.  What is found ends in no mark, or is a time with a
half of the day, unless it ends between two marks (`TableSearch.Instant.endsClear_iff`): a word is not
tried as a whole if it ends in a mark, but its cuts are tried whatever they end in.
-/

namespace TableSearch

namespace Instant

variable {read : DateReader} {text : Text} {start : Nat} {time : Instant}

/-- Whether a text does not end in a mark, or its last word is a half of the day. -/
def EndsClear (text : Text) : Prop :=
  (∀ c ∈ text.getLast?, isCut c = false) ∨ isHalfOfDay text.lastWord = true

/-- Whether a place of a text lies between two marks. -/
def BetweenMarks (text : Text) (place : Nat) : Prop :=
  (∃ c ∈ (text.take place).getLast?, isCut c = true) ∧ ∃ c ∈ (text.drop place).head?, isCut c = true

/-- A word ends in the last character of the text that it ends. -/
theorem getLast?_lastWord (solid : ∃ c ∈ text.getLast?, CharClass.isBlank c = false) :
    text.lastWord.getLast? = text.getLast? := by
  obtain ⟨head, word, rfl, ends, isWord⟩ := Text.exists_word solid
  rw [Text.lastWord_append ends isWord, List.getLast?_append_of_ne_nil head isWord.filled]

/-- **Punctuation.** What is found ends clear of marks exactly if its last word is a half of the day or
it does not end between two marks. -/
theorem endsClear_iff (found : scanAt? read text start = some time) :
    EndsClear time.text ↔
      isHalfOfDay time.text.lastWord = true ∨ ¬BetweenMarks text (start + time.text.length) := by
  obtain ⟨-, taken, ⟨⟨behind, split, opening⟩, -, whole⟩, -⟩ := scan?_eq_some_iff.mp found
  rw [text_readWhole? whole]
  have filled : taken ≠ [] := by
    rintro rfl
    obtain ⟨c, last, -⟩ := opening.solid
    cases last
  have last : (text.take (start + taken.length)).getLast? = taken.getLast? := by
    rw [List.take_add, split, List.take_left, List.getLast?_append_of_ne_nil _ filled]
  have next : text.drop (start + taken.length) = behind := by
    rw [← List.drop_drop, split, List.drop_left]
  rw [EndsClear, BetweenMarks, last, next]
  rcases opening.ends with ⟨begins, unmarked | half⟩ | mark
  · rw [getLast?_lastWord opening.solid] at unmarked
    exact iff_of_true (.inl unmarked) (.inr fun both => not_marked_of_beginsBlank begins both.2)
  · exact iff_of_true (.inr half) (.inl half)
  · have unmarked : (∀ c ∈ taken.getLast?, isCut c = false) ↔
        ¬∃ c ∈ taken.getLast?, isCut c = true := by
      simp only [not_exists, not_and, Bool.not_eq_true]
    rw [unmarked, or_comm, and_iff_left mark]

/-- A date in front of two commas takes the first of them. -/
theorem not_endsClear_of_commas :
    let text : Text := "2021-03-15,,".toList
    ∃ time, scanAt? English.readDate text 0 = some time ∧ time.text = "2021-03-15,".toList ∧
      ¬EndsClear time.text := by
  intro text
  have taken : (scanAt? English.readDate text 0).map (·.text) = some "2021-03-15,".toList := by
    decide +kernel
  obtain ⟨time, found, same⟩ := Option.map_eq_some_iff.mp taken
  refine ⟨time, found, same, ?_⟩
  rw [endsClear_iff found, same, not_or, not_not]
  exact ⟨by decide, ⟨',', by decide, by decide⟩, ⟨',', by decide, by decide⟩⟩

end Instant

end TableSearch
