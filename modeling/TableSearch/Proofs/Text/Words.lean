import Mathlib.Data.List.Basic
import Mathlib.Data.List.Induction
import Mathlib.Data.List.TakeWhile
import TableSearch.Text.Class

/-! # Words

The words of a text are those in front of a blank and those behind it
(`TableSearch.Text.words_append_blank`).  So a text that ends inside a word ends with a word of its own
(`TableSearch.Text.exists_word`), and that is its last one (`TableSearch.Text.lastWord_append`).
-/

namespace TableSearch

/-! ## Where a run ends -/

section

variable {p : Char → Bool} {front back : Text}

/-- What comes behind the characters of a kind that a text begins with is of another kind. -/
theorem ends_dropWhile (p : Char → Bool) (text : Text) :
    ∀ c ∈ (text.dropWhile p).head?, p c = false := by
  intro c first
  have stops := List.head?_dropWhile_not p text
  rw [Option.mem_def.mp first] at stops
  exact stops

/-- Characters of a kind in front of something else are those of the kind that a text begins with. -/
theorem takeWhile_append_of_ends (all : ∀ c ∈ front, p c = true)
    (closes : ∀ c ∈ back.head?, p c = false) : (front ++ back).takeWhile p = front := by
  rw [List.takeWhile_append_of_pos all]
  cases back with
  | nil => exact List.append_nil front
  | cons c back =>
      have other := closes c rfl
      rw [List.takeWhile_cons_of_neg (by rw [other]; exact Bool.false_ne_true), List.append_nil]

/-- Dropping a run leaves what stands behind it. -/
theorem dropWhile_append_of_ends (all : ∀ c ∈ front, p c = true)
    (closes : ∀ c ∈ back.head?, p c = false) : (front ++ back).dropWhile p = back := by
  have cut := List.takeWhile_append_dropWhile (p := p) (l := front ++ back)
  rw [takeWhile_append_of_ends all closes] at cut
  exact List.append_cancel_left cut

end

namespace Text

variable {c : Char} {text head behind word current : Text}

/-! ## Words and blanks -/

/-- Whether a text has characters and none of them is blank. -/
structure IsWord (word : Text) : Prop where
  filled : word ≠ []
  solid : ∀ c ∈ word, CharClass.isBlank c = false

/-- Whether a word may begin behind a text: it is empty or ends in a blank. -/
def EndsBlank (text : Text) : Prop :=
  ∀ c ∈ text.getLast?, CharClass.isBlank c = true

/-- Whether a word may end in front of a text: it is empty or begins with a blank. -/
def BeginsBlank (text : Text) : Prop :=
  ∀ c ∈ text.head?, CharClass.isBlank c = true

/-- The last word of a text. -/
def lastWord (text : Text) : Text :=
  text.words.getLast?.getD []

/-- The words of a text with a blank in it are those in front of the blank and those behind it. -/
theorem wordsFrom_append_blank (blank : CharClass.isBlank c = true) :
    wordsFrom current (head ++ c :: behind) = wordsFrom current head ++ behind.words := by
  induction head generalizing current with
  | nil =>
      have opened : wordsFrom current (c :: behind) =
          if current.isEmpty then behind.words else current.reverse :: behind.words := by
        rw [wordsFrom, if_pos blank]
        rfl
      rw [List.nil_append, opened]
      cases current <;> rfl
  | cons d head ih =>
      rw [List.cons_append, wordsFrom, wordsFrom, ih, ih]
      split_ifs <;> rfl

/-- The words of a text are those in front of a blank and those behind it. -/
theorem words_append_blank (blank : CharClass.isBlank c = true) :
    words (head ++ c :: behind) = head.words ++ behind.words :=
  wordsFrom_append_blank blank

theorem words_nil : words [] = [] :=
  rfl

theorem words_cons_blank (blank : CharClass.isBlank c = true) : words (c :: text) = text.words := by
  rw [← List.nil_append (c :: text), words_append_blank blank, words_nil, List.nil_append]

/-- A text without blanks goes on with the word that was begun, and ends it. -/
theorem wordsFrom_solid (solid : ∀ c ∈ word, CharClass.isBlank c = false)
    (filled : current.reverse ++ word ≠ []) :
    wordsFrom current word = [current.reverse ++ word] := by
  induction word generalizing current with
  | nil =>
      rw [List.append_nil] at filled ⊢
      cases current with
      | nil => exact absurd rfl filled
      | cons d current => rfl
  | cons c word ih =>
      rw [List.forall_mem_cons] at solid
      have longer : (c :: current).reverse ++ word = current.reverse ++ c :: word := by
        rw [List.reverse_cons, List.append_assoc, List.singleton_append]
      rw [wordsFrom, if_neg (by rw [solid.1]; exact Bool.false_ne_true),
        ih solid.2 (longer ▸ filled), longer]

/-- A word has itself as its only word. -/
theorem IsWord.words_eq (isWord : IsWord word) : word.words = [word] :=
  wordsFrom_solid isWord.solid isWord.filled

theorem IsWord.append (isWord : IsWord word) (solid : ∀ c ∈ behind, CharClass.isBlank c = false) :
    IsWord (word ++ behind) where
  filled := List.append_ne_nil_of_left_ne_nil isWord.filled behind
  solid := List.forall_mem_append.mpr ⟨isWord.solid, solid⟩

/-- A word behind a blank is a word of its own. -/
theorem words_append_word (ends : EndsBlank head) (isWord : IsWord word) :
    words (head ++ word) = head.words ++ [word] := by
  rcases List.eq_nil_or_concat head with rfl | ⟨init, c, rfl⟩
  · exact isWord.words_eq
  · have blank : CharClass.isBlank c = true := ends c (by simp)
    rw [List.concat_eq_append, List.append_assoc, List.singleton_append, words_append_blank blank,
      words_append_blank blank, isWord.words_eq, words_nil, List.append_nil]

/-- A word in front of a blank is a word of its own. -/
theorem words_word_append (isWord : IsWord word) (begins : BeginsBlank behind) :
    words (word ++ behind) = word :: behind.words := by
  cases behind with
  | nil => rw [List.append_nil, isWord.words_eq]; rfl
  | cons c behind =>
      have blank := begins c rfl
      rw [words_append_blank blank, isWord.words_eq, words_cons_blank blank]
      rfl

theorem endsBlank_nil : EndsBlank [] :=
  nofun

theorem endsBlank_append (head : Text) (filled : behind ≠ []) :
    EndsBlank (head ++ behind) ↔ EndsBlank behind := by
  rw [EndsBlank, EndsBlank, List.getLast?_append_of_ne_nil head filled]

theorem endsBlank_cons (blank : CharClass.isBlank c = true) (ends : EndsBlank text) :
    EndsBlank (c :: text) := by
  cases text with
  | nil => simpa [EndsBlank] using blank
  | cons d text => exact (endsBlank_append [c] (List.cons_ne_nil d text)).mpr ends

theorem beginsBlank_dropWhile (text : Text) :
    BeginsBlank (text.dropWhile (!CharClass.isBlank ·)) := by
  intro c first
  simpa using ends_dropWhile (!CharClass.isBlank ·) text c first

theorem solid_takeWhile (text : Text) :
    ∀ c ∈ text.takeWhile (!CharClass.isBlank ·), CharClass.isBlank c = false := by
  intro c member
  simpa using List.all_eq_true.mp List.all_takeWhile c member

/-- A text is empty, or begins with a blank, or begins with a word that ends there. -/
@[elab_as_elim]
theorem byWords {motive : Text → Prop} (nil : motive [])
    (blank : ∀ c text, CharClass.isBlank c = true → motive text → motive (c :: text))
    (word : ∀ word behind, IsWord word → BeginsBlank behind → motive behind →
      motive (word ++ behind)) (text : Text) : motive text := by
  induction size : text.length using Nat.strong_induction_on generalizing text with
  | _ n ih =>
      subst size
      cases text with
      | nil => exact nil
      | cons c text =>
          by_cases opens : CharClass.isBlank c = true
          · exact blank c text opens (ih _ (Nat.lt_succ_self _) text rfl)
          · have split := List.takeWhile_append_dropWhile (p := (!CharClass.isBlank ·)) (l := text)
            have later := (List.dropWhile_sublist (l := text) (!CharClass.isBlank ·)).length_le
            rw [← split, ← List.cons_append]
            exact word _ _
              ⟨List.cons_ne_nil _ _, List.forall_mem_cons.mpr
                ⟨eq_false_of_ne_true opens, solid_takeWhile text⟩⟩
              (beginsBlank_dropWhile text) (ih _ (Nat.lt_succ_of_le later) _ rfl)

theorem EndsBlank.of_append (ends : EndsBlank (head ++ behind)) : EndsBlank behind := by
  by_cases filled : behind = []
  · rw [filled]
    exact endsBlank_nil
  · exact (endsBlank_append head filled).mp ends

/-- A text that ends with a word ends with a character that is no blank. -/
theorem IsWord.exists_last (isWord : IsWord word) (head : Text) :
    ∃ c ∈ (head ++ word).getLast?, CharClass.isBlank c = false := by
  obtain ⟨c, last⟩ := Option.ne_none_iff_exists'.mp
    (mt List.getLast?_eq_none_iff.mp isWord.filled)
  rw [List.getLast?_append_of_ne_nil head isWord.filled]
  exact ⟨c, last, isWord.solid c (List.mem_of_getLast? last)⟩

theorem IsWord.not_endsBlank (isWord : IsWord word) (head : Text) :
    ¬EndsBlank (head ++ word) := by
  intro ends
  obtain ⟨c, last, solid⟩ := isWord.exists_last head
  rw [ends c last] at solid
  cases solid

theorem IsWord.not_beginsBlank (isWord : IsWord word) : ¬BeginsBlank (word ++ behind) := by
  obtain ⟨c, word, rfl⟩ := List.exists_cons_of_ne_nil isWord.filled
  intro begins
  have solid := isWord.solid c List.mem_cons_self
  rw [begins c rfl] at solid
  cases solid

/-! ## Trimming -/

/-- Trimming a text only leaves characters out. -/
theorem trim_sublist (text : Text) : text.trim.Sublist text := by
  have first := (List.dropWhile_sublist CharClass.isBlank : (text.dropWhile _).Sublist text)
  have second := (List.dropWhile_sublist CharClass.isBlank :
    ((text.dropWhile CharClass.isBlank).reverse.dropWhile _).Sublist _).reverse
  rw [List.reverse_reverse] at second
  exact second.trans first

/-- A text that begins with a blank is not trimmed. -/
theorem trim_cons_blank_ne (blank : CharClass.isBlank c = true) : trim (c :: text) ≠ c :: text := by
  have same : trim (c :: text) = text.trim := by
    rw [trim, List.dropWhile_cons_of_pos blank]
    rfl
  intro trimmed
  have shorter := text.trim_sublist.length_le
  rw [← same, trimmed] at shorter
  exact absurd shorter (Nat.not_succ_le_self _)

/-- A text that begins and ends with other characters than blanks is trimmed. -/
theorem trim_eq_self (opens : ∃ c ∈ text.head?, CharClass.isBlank c = false)
    (ends : ∃ c ∈ text.getLast?, CharClass.isBlank c = false) : text.trim = text := by
  have kept : ∀ {text : Text}, (∃ c ∈ text.head?, CharClass.isBlank c = false) →
      text.dropWhile CharClass.isBlank = text := by
    rintro (_ | ⟨c, text⟩) ⟨d, first, solid⟩
    · rfl
    · cases first
      exact List.dropWhile_cons_of_neg (by rw [solid]; exact Bool.false_ne_true)
  rw [← List.head?_reverse] at ends
  rw [trim, kept opens, kept ends, List.reverse_reverse]

/-! ## The last word -/

theorem lastWord_append (ends : EndsBlank head) (isWord : IsWord word) :
    lastWord (head ++ word) = word := by
  rw [lastWord, words_append_word ends isWord, List.getLast?_append]
  rfl

/-- A text that ends inside a word ends with a word of its own. -/
theorem exists_word (solid : ∃ c ∈ text.getLast?, CharClass.isBlank c = false) :
    ∃ head word, text = head ++ word ∧ EndsBlank head ∧ IsWord word := by
  induction text using List.reverseRecOn with
  | nil =>
      obtain ⟨c, last, -⟩ := solid
      cases last
  | append_singleton init c ih =>
      have last : CharClass.isBlank c = false := by simpa using solid
      by_cases ends : EndsBlank init
      · exact ⟨init, [c], rfl, ends, List.cons_ne_nil c [], by simpa using last⟩
      · simp only [EndsBlank, not_forall, Bool.not_eq_true, exists_prop] at ends
        obtain ⟨head, word, rfl, apart, isWord⟩ := ih ends
        exact ⟨head, word ++ [c], List.append_assoc head word [c], apart,
          isWord.append (by simpa using last)⟩

end Text

end TableSearch
