import Mathlib.Data.List.Basic
import Mathlib.Data.List.Range
import TableSearch.Instant.Scan
import TableSearch.Proofs.Text.Words

/-! # An instant at the start of a text

The texts that are tried as an instant are openings of the first line: parts of it from its start that
have few words and end with a word that may end a date, whole or cut before a mark
(`TableSearch.Instant.IsOpening`).  All of them are tried and nothing else
(`TableSearch.Instant.mem_openings_iff`), a longer one before a shorter one
(`TableSearch.Instant.openings_sorted`).

An instant keeps the text it was read from.  What is found at the start of a text is therefore a part
of the text that is not empty (`TableSearch.Instant.text_scan?`).
-/

namespace TableSearch

namespace Instant

variable {read : DateReader} {c : Char} {text line before head word cut behind : Text} {time : Instant}

/-! ## The words of a line with their heads -/

/-- The words of a line, each with what stands before it, from the first word on. -/
theorem wordsWithHeads_eq (before line : Text) :
    wordsWithHeads before line =
      match line.dropWhile CharClass.isBlank with
      | [] => []
      | c :: rest =>
        let word := c :: rest.takeWhile (!CharClass.isBlank ·)
        let head := before ++ line.takeWhile CharClass.isBlank
        (head, word) :: wordsWithHeads (head ++ word) (rest.dropWhile (!CharClass.isBlank ·)) := by
  rw [wordsWithHeads]
  split <;> rename_i opened <;> rw [opened]

/-- A blank in front of a line only belongs to what stands before its words. -/
theorem wordsWithHeads_cons_blank (blank : CharClass.isBlank c = true) :
    wordsWithHeads before (c :: line) = wordsWithHeads (before ++ [c]) line := by
  rw [wordsWithHeads_eq, wordsWithHeads_eq (before ++ [c])]
  simp only [List.takeWhile_cons_of_pos blank, List.dropWhile_cons_of_pos blank, List.append_assoc,
    List.singleton_append]

/-- The first word of a line has what was before the line in front of it, and the other words have
that word there as well. -/
theorem wordsWithHeads_word_append (isWord : word.IsWord) (begins : behind.BeginsBlank) :
    wordsWithHeads before (word ++ behind) =
      (before, word) :: wordsWithHeads (before ++ word) behind := by
  obtain ⟨filled, solid⟩ := isWord
  obtain ⟨c, word, rfl⟩ := List.exists_cons_of_ne_nil filled
  rw [List.forall_mem_cons] at solid
  have passes : ∀ d ∈ word, (!CharClass.isBlank d) = true := fun d member => by
    rw [solid.2 d member, Bool.not_false]
  have stops : ∀ d ∈ behind.head?, (!CharClass.isBlank d) = false := fun d first => by
    rw [begins d first, Bool.not_true]
  have apart : ¬CharClass.isBlank c = true := by
    rw [solid.1]
    exact Bool.false_ne_true
  rw [List.cons_append, wordsWithHeads_eq]
  simp only [List.takeWhile_cons_of_neg apart, List.dropWhile_cons_of_neg apart, List.append_nil,
    takeWhile_append_of_ends passes stops, dropWhile_append_of_ends passes stops]

theorem wordsWithHeads_nil : wordsWithHeads before [] = [] := by
  rw [wordsWithHeads_eq]
  rfl

/-- Words behind a place where one may begin are found there as in a line of their own. -/
theorem wordsWithHeads_append {tail : Text} (ends : head.EndsBlank) :
    wordsWithHeads before (head ++ tail) =
      wordsWithHeads before head ++ wordsWithHeads (before ++ head) tail := by
  induction head using Text.byWords generalizing before with
  | nil => rw [wordsWithHeads_nil, List.nil_append, List.nil_append, List.append_nil]
  | blank c head blank ih =>
      have ends' : Text.EndsBlank ([c] ++ head) := ends
      rw [List.cons_append, wordsWithHeads_cons_blank blank, wordsWithHeads_cons_blank blank,
        ih ends'.of_append, List.append_assoc, List.singleton_append]
  | word word behind isWord begins ih =>
      have begins' : (behind ++ tail).BeginsBlank := by
        cases behind with
        | nil => exact absurd (by rwa [List.append_nil] at ends) (isWord.not_endsBlank [])
        | cons c behind => exact begins
      rw [List.append_assoc, wordsWithHeads_word_append isWord begins',
        wordsWithHeads_word_append isWord begins, ih ends.of_append, List.append_assoc,
        List.cons_append]

/-- A line has as many words with what stands before them as it has words. -/
theorem length_wordsWithHeads : (wordsWithHeads before line).length = line.words.length := by
  induction line using Text.byWords generalizing before with
  | nil => rw [wordsWithHeads_nil, Text.words_nil]; rfl
  | blank c line blank ih =>
      rw [wordsWithHeads_cons_blank blank, Text.words_cons_blank blank, ih]
  | word word behind isWord begins ih =>
      rw [wordsWithHeads_word_append isWord begins, Text.words_word_append isWord begins,
        List.length_cons, List.length_cons, ih]

/-- A word of a line stands behind its head and in front of a blank or the end. -/
theorem exists_of_mem_wordsWithHeads (member : (head, word) ∈ wordsWithHeads before line) :
    ∃ front behind, line = front ++ (word ++ behind) ∧ head = before ++ front ∧
      front.EndsBlank ∧ word.IsWord ∧ behind.BeginsBlank := by
  induction line using Text.byWords generalizing before with
  | nil =>
      rw [wordsWithHeads_nil] at member
      cases member
  | blank c line blank ih =>
      rw [wordsWithHeads_cons_blank blank] at member
      obtain ⟨front, behind, rfl, rfl, ends, isWord, begins⟩ := ih member
      exact ⟨c :: front, behind, rfl, List.append_assoc before [c] front,
        Text.endsBlank_cons blank ends, isWord, begins⟩
  | word first behind isWord begins ih =>
      rw [wordsWithHeads_word_append isWord begins, List.mem_cons, Prod.mk.injEq] at member
      rcases member with ⟨rfl, rfl⟩ | member
      · exact ⟨[], behind, rfl, (List.append_nil _).symm, Text.endsBlank_nil, isWord, begins⟩
      · obtain ⟨front, behind, rfl, rfl, ends, isWord, begins'⟩ := ih member
        have filled : front ≠ [] := by
          rintro rfl
          exact isWord.not_beginsBlank begins
        exact ⟨first ++ front, behind, (List.append_assoc first front _).symm,
          List.append_assoc before first front, (Text.endsBlank_append _ filled).mpr ends, isWord,
          begins'⟩

/-- Every word of a line is found with its head. -/
theorem wordsWithHeads_split (ends : head.EndsBlank) (isWord : word.IsWord)
    (begins : behind.BeginsBlank) :
    wordsWithHeads [] (head ++ (word ++ behind)) =
      wordsWithHeads [] head ++ (head, word) :: wordsWithHeads (head ++ word) behind := by
  rw [wordsWithHeads_append ends, wordsWithHeads_word_append isWord begins, List.nil_append]

/-- The words with heads stand one behind another. -/
theorem wordsWithHeads_sorted :
    (wordsWithHeads before line).Pairwise fun first later =>
      (first.1 ++ first.2).length ≤ later.1.length := by
  induction line using Text.byWords generalizing before with
  | nil =>
      rw [wordsWithHeads_nil]
      exact List.Pairwise.nil
  | blank c line blank ih =>
      rw [wordsWithHeads_cons_blank blank]
      exact ih
  | word word behind isWord begins ih =>
      rw [wordsWithHeads_word_append isWord begins, List.pairwise_cons]
      refine ⟨?_, ih⟩
      rintro ⟨head, later⟩ member
      obtain ⟨front, _, -, rfl, -⟩ := exists_of_mem_wordsWithHeads member
      exact (List.prefix_append (before ++ word) front).length_le

/-- The first words of a line are those with few words in their heads. -/
theorem mem_take_wordsWithHeads {count : Nat} :
    (head, word) ∈ (wordsWithHeads [] line).take count ↔
      head.EndsBlank ∧ word.IsWord ∧ head.words.length < count ∧
        ∃ behind, line = head ++ (word ++ behind) ∧ behind.BeginsBlank := by
  constructor
  · intro member
    obtain ⟨front, behind, rfl, rfl, ends, isWord, begins⟩ :=
      exists_of_mem_wordsWithHeads (List.mem_of_mem_take member)
    refine ⟨ends, isWord, ?_, behind, rfl, begins⟩
    by_contra many
    -- Then it would be one of the words of its own head.
    rw [wordsWithHeads_split ends isWord begins, List.take_append_of_le_length
      (by rw [length_wordsWithHeads]; exact not_lt.mp many)] at member
    obtain ⟨_, _, split, rfl, -⟩ := exists_of_mem_wordsWithHeads (List.mem_of_mem_take member)
    have sizes := congrArg List.length split
    have := List.length_pos_iff.mpr isWord.filled
    simp only [List.length_append] at sizes
    omega
  · rintro ⟨ends, isWord, few, behind, rfl, begins⟩
    rw [wordsWithHeads_split ends isWord begins, List.take_append,
      List.mem_append, length_wordsWithHeads]
    obtain ⟨room, size⟩ := Nat.exists_eq_add_of_lt few
    right
    rw [show count - head.words.length = room + 1 by omega, List.take_succ_cons]
    exact List.mem_cons_self

/-! ## The cuts of a word -/

/-- Whether a word may end a date, given what stands behind it: a blank or nothing, if it does not end
in a mark or is a half of the day, or else a mark. -/
def MayEnd (word behind : Text) : Prop :=
  behind.BeginsBlank ∧ ((∀ c ∈ word.getLast?, isCut c = false) ∨ isHalfOfDay word = true) ∨
    ∃ c ∈ behind.head?, isCut c = true

/-- A mark is not blank. -/
theorem not_isBlank_of_isCut (mark : isCut c = true) : CharClass.isBlank c = false := by
  have checked : ",;.)]-/".toList.all (!CharClass.isBlank ·) = true := by decide
  rw [isCut, List.contains_iff_mem] at mark
  simpa using List.all_eq_true.mp checked c mark

theorem not_marked_of_beginsBlank (begins : behind.BeginsBlank) :
    ¬∃ c ∈ behind.head?, isCut c = true := by
  rintro ⟨c, first, mark⟩
  have blank := begins c first
  rw [not_isBlank_of_isCut mark] at blank
  cases blank

/-- What stands behind the last word does not matter to a cut inside the word. -/
theorem mayEnd_append {rest : Text} (begins : behind.BeginsBlank) :
    MayEnd word (rest ++ behind) ↔ MayEnd word rest := by
  cases rest with
  | cons c rest => exact Iff.rfl
  | nil =>
      have unmarked := not_marked_of_beginsBlank begins
      have begins' : Text.BeginsBlank [] := nofun
      have unmarked' := not_marked_of_beginsBlank begins'
      simp only [MayEnd, List.nil_append, begins, begins', unmarked, unmarked']

/-- The places where a word may be cut are those inside it in front of a mark. -/
theorem mem_places_iff {place : Nat} :
    place ∈ (List.range word.length).filter (fun i => 0 < i && word[i]?.any isCut) ↔
      0 < place ∧ ∃ c ∈ (word.drop place).head?, isCut c = true := by
  rw [List.mem_filter, List.mem_range, Bool.and_eq_true, decide_eq_true_eq, Option.any_eq_true,
    List.head?_drop]
  refine ⟨And.right, fun found => ⟨?_, found⟩⟩
  obtain ⟨-, c, there, -⟩ := found
  exact (List.getElem?_eq_some_iff.mp there).1

/-- The cuts of a word are its parts from its start that may end a date. -/
theorem mem_wordCuts_iff (isWord : word.IsWord) : cut ∈ wordCuts word ↔
    ∃ rest, word = cut ++ rest ∧ cut ≠ [] ∧ MayEnd cut rest := by
  have whole : cut ∈ (if !word.getLast?.any isCut || isHalfOfDay word then [word] else []) ↔
      word = cut ∧ ((∀ c ∈ cut.getLast?, isCut c = false) ∨ isHalfOfDay cut = true) := by
    rw [List.mem_ite_nil_right, List.mem_singleton, Bool.or_eq_true, Bool.not_eq_true',
      Option.any_eq_false, and_comm, eq_comm]
    exact and_congr_right fun same => by rw [same]; rfl
  rw [wordCuts, List.mem_append, whole]
  simp only [List.mem_map, List.mem_reverse, mem_places_iff]
  constructor
  · rintro (⟨rfl, ends⟩ | ⟨place, ⟨inside, mark⟩, rfl⟩)
    · exact ⟨[], (List.append_nil word).symm, isWord.filled, .inl ⟨nofun, ends⟩⟩
    · refine ⟨word.drop place, (List.take_append_drop place word).symm, ?_, .inr mark⟩
      rw [Ne, List.take_eq_nil_iff, not_or]
      exact ⟨Nat.ne_of_gt inside, isWord.filled⟩
  · rintro ⟨rest, rfl, filled, ⟨begins, ends⟩ | mark⟩
    · have nothing : rest = [] := by
        cases rest with
        | nil => rfl
        | cons c rest =>
            have solid := isWord.solid c (by simp)
            rw [begins c rfl] at solid
            cases solid
      rw [nothing, List.append_nil]
      exact .inl ⟨rfl, ends⟩
    · refine .inr ⟨cut.length, ⟨List.length_pos_iff.mpr filled, ?_⟩, List.take_left⟩
      rwa [List.drop_left]

/-- Longer cuts stand first. -/
theorem wordCuts_sorted : (wordCuts word).Pairwise fun longer shorter =>
    shorter.length < longer.length := by
  rw [wordCuts, List.pairwise_append, List.pairwise_map, List.pairwise_reverse]
  refine ⟨?_, ?_, ?_⟩
  · split_ifs
    · exact List.pairwise_singleton _ _
    · exact List.Pairwise.nil
  · refine (List.pairwise_lt_range.filter _).imp_of_mem fun {place later} _ member less => ?_
    have inside := List.mem_range.mp (List.mem_filter.mp member).1
    rw [List.length_take, List.length_take]
    omega
  · intro whole member part known
    obtain ⟨place, inside, rfl⟩ := List.mem_map.mp known
    have below := List.mem_range.mp (List.mem_filter.mp (List.mem_reverse.mp inside)).1
    rw [List.mem_ite_nil_right, List.mem_singleton] at member
    rw [member.2, List.length_take]
    exact (min_le_left place word.length).trans_lt below

/-! ## Openings -/

/-- Whether a part of a text from its start may be an instant by its shape, given what stands behind
it: it stays on one line, has few words, and ends in a word that may end a date. -/
structure IsOpening (taken behind : Text) : Prop where
  line : '\n' ∉ taken
  few : taken.words.length ≤ wordLimit
  solid : ∃ c ∈ taken.getLast?, CharClass.isBlank c = false
  ends : MayEnd taken.lastWord behind

/-- The openings of a line are what is tried as an instant, each with its last word apart. -/
theorem mem_openings_iff (single : '\n' ∉ line) : (head, word) ∈ openings line ↔
    head.EndsBlank ∧ word.IsWord ∧
      ∃ behind, line = head ++ word ++ behind ∧ IsOpening (head ++ word) behind := by
  have tried : (head, word) ∈ openings line ↔
      ∃ whole, (head, whole) ∈ (wordsWithHeads [] line).take wordLimit ∧ word ∈ wordCuts whole := by
    simp [openings]
  rw [tried]
  simp only [mem_take_wordsWithHeads]
  constructor
  · rintro ⟨whole, ⟨ends, isWord, few, behind, rfl, begins⟩, cut⟩
    obtain ⟨rest, rfl, filled, mayEnd⟩ := (mem_wordCuts_iff isWord).mp cut
    have isWord' : word.IsWord :=
      ⟨filled, fun c member => isWord.solid c (List.mem_append_left _ member)⟩
    refine ⟨ends, isWord', rest ++ behind, by simp only [List.append_assoc], ?_, ?_,
      isWord'.exists_last _, ?_⟩
    · rw [← List.append_assoc, ← List.append_assoc, List.append_assoc (head ++ word)] at single
      exact fun member => single (List.mem_append_left _ member)
    · rw [Text.words_append_word ends isWord', List.length_append]
      exact few
    · rw [Text.lastWord_append ends isWord', mayEnd_append begins]
      exact mayEnd
  · rintro ⟨ends, isWord, behind, rfl, opening⟩
    have few := opening.few
    have mayEnd := opening.ends
    have split := List.takeWhile_append_dropWhile (p := (!CharClass.isBlank ·)) (l := behind)
    rw [Text.words_append_word ends isWord, List.length_append] at few
    rw [Text.lastWord_append ends isWord, ← split,
      mayEnd_append (Text.beginsBlank_dropWhile behind)] at mayEnd
    have isWhole := isWord.append (Text.solid_takeWhile behind)
    refine ⟨_, ⟨ends, isWhole, few, _, ?_, Text.beginsBlank_dropWhile behind⟩,
      (mem_wordCuts_iff isWhole).mpr ⟨_, rfl, isWord.filled, mayEnd⟩⟩
    rw [List.append_assoc word, split, List.append_assoc]

/-- Longer openings stand first. -/
theorem openings_sorted : (openings line).Pairwise fun longer shorter =>
    (shorter.1 ++ shorter.2).length < (longer.1 ++ longer.2).length := by
  rw [openings, List.pairwise_flatMap]
  constructor
  · rintro ⟨head, word⟩ -
    rw [List.pairwise_map]
    refine wordCuts_sorted.imp fun less => ?_
    rw [List.length_append, List.length_append]
    exact Nat.add_lt_add_left less head.length
  · rw [List.pairwise_reverse]
    refine (wordsWithHeads_sorted.sublist (List.take_sublist _ _)).imp_of_mem ?_
    intro earlier later member member' apart longer known shorter known'
    obtain ⟨cut, inside, rfl⟩ := List.mem_map.mp known
    obtain ⟨cut', inside', rfl⟩ := List.mem_map.mp known'
    obtain ⟨-, isWord, -⟩ := mem_take_wordsWithHeads.mp member
    obtain ⟨-, isWord', -⟩ := mem_take_wordsWithHeads.mp member'
    obtain ⟨-, -, filled, -⟩ := (mem_wordCuts_iff isWord').mp inside
    obtain ⟨rest, split, -⟩ := (mem_wordCuts_iff isWord).mp inside'
    have := List.length_pos_iff.mpr filled
    rw [split] at apart
    simp only [List.length_append] at apart ⊢
    omega

/-! ## What is found -/

theorem not_mem_line (text : Text) : '\n' ∉ text.takeWhile (· ≠ '\n') := by
  intro member
  simpa using List.all_eq_true.mp List.all_takeWhile _ member

/-- An instant keeps the text it was read from. -/
theorem text_readTrimmed? (found : readTrimmed? read text = some time) : time.text = text := by
  rw [readTrimmed?, Option.ite_none_right_eq_some] at found
  obtain ⟨resolution, -, resolved⟩ := Option.bind_eq_some_iff.mp found.2
  rw [ofResolution?, Option.ite_none_left_eq_some, Option.some.injEq] at resolved
  rw [← resolved.2]

theorem text_readWhole? (found : readWhole? read text = some time) : time.text = text := by
  rw [readWhole?, Option.ite_none_left_eq_some] at found
  exact text_readTrimmed? found.2

/-- **Instants.** The instant that a text begins with is a part of the text, and not empty. -/
theorem text_scan? (found : scan? read text = some time) :
    time.text <+: text ∧ time.text ≠ [] := by
  unfold scan? at found
  simp only at found
  split at found
  · cases found
  · rw [Option.ite_none_left_eq_some, Option.ite_none_right_eq_some] at found
    obtain ⟨⟨head, last⟩, member, tried⟩ := List.exists_of_findSome?_eq_some found.2.2
    rw [Option.ite_none_right_eq_some] at tried
    obtain ⟨-, isWord, behind, split, -⟩ := (mem_openings_iff (not_mem_line text)).mp member
    rw [text_readTrimmed? tried.2]
    refine ⟨?_, List.append_ne_nil_of_right_ne_nil head isWord.filled⟩
    exact (split ▸ List.prefix_append (head ++ last) behind).trans (List.takeWhile_prefix _)

end Instant

end TableSearch
