import TableSearch.Proofs.Instant.Opening

/-! # The longest instant at the start of a text

A part of a text from its start is read as an instant if it is an opening whose last word bears a date,
and is an instant as a whole (`TableSearch.Instant.Reads`).  What is found at the start of a text whose
first word bears a date is the instant of the longest such part, and nothing is found only if there is
none (`TableSearch.Instant.scanAt?_longest`).
-/

namespace TableSearch

/-! ## The first success in a sorted list -/

section

variable {α β : Type} {l : List α} {f : α → Option β} {size : α → Nat} {result : β}

/-- In a list with the larger ones first, the first success is that of the largest one. -/
theorem findSome?_eq_some_iff_of_sorted (sorted : l.Pairwise fun a b => size b < size a) :
    l.findSome? f = some result ↔
      ∃ a ∈ l, f a = some result ∧ ∀ b ∈ l, (f b).isSome = true → size b ≤ size a := by
  rw [List.findSome?_eq_some_iff]
  constructor
  · rintro ⟨larger, a, smaller, rfl, found, failed⟩
    refine ⟨a, List.mem_append_right _ List.mem_cons_self, found, fun b member success => ?_⟩
    rw [List.pairwise_append, List.pairwise_cons] at sorted
    rcases List.mem_append.mp member with before | later
    · rw [failed b before] at success
      cases success
    · rcases List.mem_cons.mp later with rfl | after
      · exact le_rfl
      · exact (sorted.2.1.1 b after).le
  · rintro ⟨a, member, found, largest⟩
    obtain ⟨larger, smaller, rfl⟩ := List.append_of_mem member
    refine ⟨larger, a, smaller, rfl, found, fun b before => ?_⟩
    rw [List.pairwise_append] at sorted
    by_contra success
    have below := largest b (List.mem_append_left _ before) (Option.isSome_iff_ne_none.mpr success)
    exact absurd below (not_le.mpr (sorted.2.2 b before a List.mem_cons_self))

end

namespace Instant

variable {read : DateReader} {c : Char} {text taken head word behind : Text} {time : Instant}

/-! ## What is tried -/

/-- A line ends in front of a line break, which is blank, or with the text. -/
theorem exists_line (text : Text) :
    ∃ rest : Text, text = text.takeWhile (· ≠ '\n') ++ rest ∧ rest.BeginsBlank := by
  refine ⟨text.dropWhile (· ≠ '\n'), List.takeWhile_append_dropWhile.symm, fun c first => ?_⟩
  have same : c = '\n' := by simpa using ends_dropWhile (fun c => decide (c ≠ '\n')) text c first
  rw [same]
  decide

/-- Whether a part of a text is tried depends on its first line only. -/
theorem isOpening_append {rest : Text} (begins : behind.BeginsBlank) :
    IsOpening taken (rest ++ behind) ↔ IsOpening taken rest :=
  ⟨fun ⟨line, few, solid, ends⟩ => ⟨line, few, solid, (mayEnd_append begins).mp ends⟩,
    fun ⟨line, few, solid, ends⟩ => ⟨line, few, solid, (mayEnd_append begins).mpr ends⟩⟩

/-- The openings of the first line are those of the text. -/
theorem mem_openings_line_iff : (head, word) ∈ openings (text.takeWhile (· ≠ '\n')) ↔
    head.EndsBlank ∧ word.IsWord ∧
      ∃ behind, text = head ++ word ++ behind ∧ IsOpening (head ++ word) behind := by
  rw [mem_openings_iff (not_mem_line text)]
  refine and_congr_right fun ends => and_congr_right fun isWord => ⟨?_, ?_⟩
  · rintro ⟨behind, line, opening⟩
    obtain ⟨rest, split, begins⟩ := exists_line text
    refine ⟨behind ++ rest, ?_, (isOpening_append begins).mpr opening⟩
    rw [← List.append_assoc, ← line, ← split]
  · rintro ⟨behind, rfl, opening⟩
    obtain ⟨rest, split, begins⟩ := exists_line behind
    have passes : ∀ c ∈ head ++ word, decide (c ≠ '\n') = true := by
      intro c member
      rw [decide_eq_true_eq]
      rintro rfl
      exact opening.line member
    refine ⟨behind.takeWhile (· ≠ '\n'), List.takeWhile_append_of_pos passes, ?_⟩
    rw [split] at opening
    exact (isOpening_append begins).mp opening

/-! ## What is read -/

/-- Whether a part of a text from its start is read as an instant: it is an opening whose last word
bears a date, and is the instant as a whole. -/
structure Reads (read : DateReader) (text taken : Text) (time : Instant) : Prop where
  opening : ∃ behind, text = taken ++ behind ∧ IsOpening taken behind
  bears : bearsDate read taken.lastWord = true
  whole : readWhole? read taken = some time

/-- Whether the first word of a text bears a date. -/
def BeginsDate (read : DateReader) (text : Text) : Prop :=
  ∃ word ∈ text.words.head?, bearsDate read word = true

/-- An opening with its last word apart, read as an instant. -/
def tryOpening (read : DateReader) (opening : Text × Text) : Option Instant :=
  if bearsDate read opening.2 then readTrimmed? read (opening.1 ++ opening.2) else none

theorem readWhole?_of_trimmed (filled : text ≠ []) (trimmed : text.trim = text) :
    readWhole? read text = readTrimmed? read text := by
  rw [readWhole?, if_neg]
  simpa [trimmed] using filled

/-- Nothing is read in front of a blank. -/
theorem not_reads_of_blank (blank : CharClass.isBlank c = true) :
    ¬Reads read (c :: text) taken time := by
  rintro ⟨⟨behind, split, opening⟩, -, whole⟩
  cases taken with
  | nil =>
      obtain ⟨d, last, -⟩ := opening.solid
      cases last
  | cons d taken =>
      obtain ⟨rfl, -⟩ := List.cons.inj split
      rw [readWhole?, if_pos] at whole
      · cases whole
      · rw [decide_eq_true (Text.trim_cons_blank_ne blank), Bool.or_true]

/-- In front of another character, an opening is read with its last word apart. -/
theorem tryOpening_eq_some_iff (solid : CharClass.isBlank c = false)
    (member : (head, word) ∈ openings ((c :: text).takeWhile (· ≠ '\n'))) :
    tryOpening read (head, word) = some time ↔ Reads read (c :: text) (head ++ word) time := by
  obtain ⟨ends, isWord, behind, split, opening⟩ := mem_openings_line_iff.mp member
  have filled : head ++ word ≠ [] := List.append_ne_nil_of_right_ne_nil head isWord.filled
  have whole : readWhole? read (head ++ word) = readTrimmed? read (head ++ word) := by
    refine readWhole?_of_trimmed filled (Text.trim_eq_self ?_ opening.solid)
    have first := congrArg List.head? split
    rw [List.head?_append_of_ne_nil _ filled] at first
    exact ⟨c, first.symm, solid⟩
  rw [tryOpening, Option.ite_none_right_eq_some, ← whole]
  constructor
  · rintro ⟨bears, found⟩
    exact ⟨⟨behind, split, opening⟩, (Text.lastWord_append ends isWord).symm ▸ bears, found⟩
  · rintro ⟨-, bears, found⟩
    exact ⟨Text.lastWord_append ends isWord ▸ bears, found⟩

/-- Everything that is read is tried. -/
theorem exists_opening (reads : Reads read text taken time) :
    ∃ head word, taken = head ++ word ∧ (head, word) ∈ openings (text.takeWhile (· ≠ '\n')) := by
  obtain ⟨behind, split, opening⟩ := reads.opening
  obtain ⟨head, word, rfl, ends, isWord⟩ := Text.exists_word opening.solid
  exact ⟨head, word, rfl, mem_openings_line_iff.mpr ⟨ends, isWord, behind, split, opening⟩⟩

/-! ## What is found -/

theorem scan?_of_blank (blank : CharClass.isBlank c = true) : scan? read (c :: text) = none := by
  rw [scan?]
  by_cases same : c = '\n'
  · simp [same]
  · simp [same, blank]

/-- A word does not go beyond its line. -/
theorem takeWhile_line (text : Text) :
    (text.takeWhile (· ≠ '\n')).takeWhile (!CharClass.isBlank ·) =
      text.takeWhile (!CharClass.isBlank ·) := by
  obtain ⟨rest, split, begins⟩ := exists_line text
  have stops : rest.takeWhile (!CharClass.isBlank ·) = [] := by
    cases rest with
    | nil => rfl
    | cons c rest => exact List.takeWhile_cons_of_neg (by rw [begins c rfl]; exact Bool.false_ne_true)
  conv_rhs => rw [split, List.takeWhile_append, stops]
  split_ifs with whole
  · rw [List.append_nil]
    exact (List.takeWhile_sublist _).eq_of_length whole
  · rfl

/-- At the start of a word the openings of the line are tried in turn, if the word bears a date. -/
theorem scan?_of_solid (solid : CharClass.isBlank c = false) :
    scan? read (c :: text) =
      if bearsDate read ((c :: text).takeWhile (!CharClass.isBlank ·)) then
        (openings ((c :: text).takeWhile (· ≠ '\n'))).findSome? (tryOpening read)
      else none := by
  have differs : decide (c ≠ '\n') = true := by
    rw [decide_eq_true_eq]
    rintro rfl
    cases solid
  rw [scan?, takeWhile_line]
  simp only [List.takeWhile_cons_of_pos (p := fun c : Char => decide (c ≠ '\n')) differs, solid,
    Bool.false_eq_true, if_false]
  rfl

/-- A date begins at the start of a word exactly when that word bears one. -/
theorem beginsDate_iff (solid : CharClass.isBlank c = false) : BeginsDate read (c :: text) ↔
    bearsDate read ((c :: text).takeWhile (!CharClass.isBlank ·)) = true := by
  have split := List.takeWhile_append_dropWhile (p := (!CharClass.isBlank ·)) (l := c :: text)
  have isWord : Text.IsWord ((c :: text).takeWhile (!CharClass.isBlank ·)) := by
    refine ⟨?_, Text.solid_takeWhile _⟩
    rw [List.takeWhile_cons_of_pos (by rw [solid]; rfl)]
    exact List.cons_ne_nil _ _
  rw [BeginsDate, ← split, Text.words_word_append isWord (Text.beginsBlank_dropWhile _), split]
  exact ⟨fun ⟨_, same, bears⟩ => Option.some.inj same ▸ bears, fun bears => ⟨_, rfl, bears⟩⟩

/-- What is found in a text is the instant of the longest part that is read as one. -/
theorem scan?_eq_some_iff : scan? read text = some time ↔
    BeginsDate read text ∧ ∃ taken, Reads read text taken time ∧
      ∀ taken' time', Reads read text taken' time' → taken'.length ≤ taken.length := by
  cases text with
  | nil =>
      refine iff_of_false nofun ?_
      rintro ⟨⟨_, none, -⟩, -⟩
      cases none
  | cons c text =>
      cases solid : CharClass.isBlank c with
      | true =>
          rw [scan?_of_blank solid]
          refine iff_of_false nofun ?_
          rintro ⟨-, taken, reads, -⟩
          exact not_reads_of_blank solid reads
      | false =>
          rw [scan?_of_solid solid, Option.ite_none_right_eq_some, beginsDate_iff solid,
            findSome?_eq_some_iff_of_sorted openings_sorted]
          refine and_congr_right fun _ => ⟨?_, ?_⟩
          · rintro ⟨⟨head, word⟩, member, found, longest⟩
            refine ⟨head ++ word, (tryOpening_eq_some_iff solid member).mp found, ?_⟩
            intro taken' time' reads
            obtain ⟨head', word', rfl, member'⟩ := exists_opening reads
            exact longest _ member' (Option.isSome_iff_exists.mpr
              ⟨time', (tryOpening_eq_some_iff solid member').mpr reads⟩)
          · rintro ⟨taken, reads, longest⟩
            obtain ⟨head, word, rfl, member⟩ := exists_opening reads
            refine ⟨(head, word), member, (tryOpening_eq_some_iff solid member).mpr reads, ?_⟩
            rintro ⟨head', word'⟩ member' success
            obtain ⟨time', found⟩ := Option.isSome_iff_exists.mp success
            exact longest _ time' ((tryOpening_eq_some_iff solid member').mp found)

/-- Nothing is found in a text exactly when no date begins there or no part is read as an
instant. -/
theorem scan?_eq_none_iff : scan? read text = none ↔
    ¬BeginsDate read text ∨ ∀ taken time, ¬Reads read text taken time := by
  cases text with
  | nil =>
      refine iff_of_true rfl (.inl ?_)
      rintro ⟨_, none, -⟩
      cases none
  | cons c text =>
      cases solid : CharClass.isBlank c with
      | true =>
          exact iff_of_true (scan?_of_blank solid) (.inr fun _ _ => not_reads_of_blank solid)
      | false =>
          rw [scan?_of_solid solid, ite_eq_right_iff, beginsDate_iff solid,
            List.findSome?_eq_none_iff, ← imp_iff_not_or]
          refine imp_congr_right fun _ => ⟨?_, ?_⟩
          · intro failed taken time reads
            obtain ⟨head, word, rfl, member⟩ := exists_opening reads
            cases (failed _ member).symm.trans ((tryOpening_eq_some_iff solid member).mpr reads)
          · rintro unread ⟨head, word⟩ member
            rw [Option.eq_none_iff_forall_ne_some]
            exact fun time found => unread _ time ((tryOpening_eq_some_iff solid member).mp found)

/-- **The longest instant.** Nothing is found at a place of a text exactly if the first word there
bears no date or no part of the text from there on is read as an instant.  Otherwise what is found is
the instant of the longest part that is. -/
theorem scanAt?_longest (read : DateReader) (text : Text) (start : Nat) :
    (scanAt? read text start = none ↔
      ¬BeginsDate read (text.drop start) ∨
        ∀ taken time, ¬Reads read (text.drop start) taken time) ∧
    ∀ time, scanAt? read text start = some time ↔
      BeginsDate read (text.drop start) ∧ ∃ taken, Reads read (text.drop start) taken time ∧
        ∀ taken' time', Reads read (text.drop start) taken' time' →
          taken'.length ≤ taken.length :=
  ⟨scan?_eq_none_iff, fun _ => scan?_eq_some_iff⟩

end Instant

end TableSearch
