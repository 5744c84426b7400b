import TableSearch.Proofs.Duration.Grammar

/-! # The longest run of parts

The scan for a duration reads parts one after another, with separators between them, as long as a part
follows.  What it takes is a run of parts (`TableSearch.Duration.exists_runText`), and it goes as far as
any run that the text begins with (`TableSearch.Duration.RunText.reached`): behind a part a run can only
go on with all separating characters there and the part behind them.  So what is taken is the longest run
(`TableSearch.Duration.scanAt?_grammar`).

Runs behind one another are a run (`TableSearch.Duration.RunText.append`).  No letter follows the first
one there, since the second one or the separator in front of it does.
-/

namespace TableSearch

namespace Duration

variable {text taken rest separator later tail : Text} {part : Part} {rounds : Nat}

/-! ## Runs -/

/-- A run begins with a part. -/
theorem RunText.exists_part (typed : RunText taken rest) :
    ∃ part behind, taken = part ++ behind ∧ PartText part (behind ++ rest) := by
  cases typed with
  | last first => exact ⟨taken, [], (List.append_nil taken).symm, first⟩
  | more first _ _ => exact ⟨_, _, rfl, by rwa [List.append_assoc]⟩

theorem RunText.beginsPart (typed : RunText taken rest) : BeginsPart (taken ++ rest) := by
  obtain ⟨part, behind, rfl, first⟩ := typed.exists_part
  exact ⟨part, behind ++ rest, List.append_assoc _ _ _, first⟩

/-- A run begins with a digit. -/
theorem RunText.exists_digit (typed : RunText taken rest) :
    ∃ c tail, taken = c :: tail ∧ isDigit c = true := by
  obtain ⟨part, behind, rfl, first⟩ := typed.exists_part
  obtain ⟨c, tail, rfl, digit⟩ := first.exists_digit
  exact ⟨c, tail ++ behind, rfl, digit⟩

theorem RunText.length_pos (typed : RunText taken rest) : 0 < taken.length := by
  obtain ⟨c, tail, rfl, -⟩ := typed.exists_digit
  exact Nat.succ_pos _

/-- A separator in front of a run is all separating characters. -/
theorem RunText.dropWhile_separator (typed : RunText later rest)
    (separates : ∀ c ∈ separator, isSeparator c = true) :
    (separator ++ (later ++ rest)).dropWhile isSeparator = later ++ rest := by
  obtain ⟨d, tail, rfl, digit⟩ := typed.exists_digit
  refine dropWhile_append_of_ends separates ?_
  rintro c ⟨⟩
  exact isSeparator_of_isDigit digit

/-- What comes behind a part in a run is no letter. -/
theorem RunText.closes (typed : RunText later rest) (separates : ∀ c ∈ separator, isSeparator c = true) :
    ∀ c ∈ (separator ++ (later ++ rest)).head?, CharClass.isAsciiLetter c = false := by
  cases separator with
  | nil =>
      obtain ⟨d, tail, rfl, digit⟩ := typed.exists_digit
      rintro c ⟨⟩
      exact isAsciiLetter_of_isDigit digit
  | cons d separator =>
      rintro c ⟨⟩
      exact (isSeparator_apart (separates d List.mem_cons_self)).2.2

/-- A run behind another one and a separator makes one run, whatever the first one stood in front of. -/
theorem RunText.append (typed : RunText taken tail) (separates : ∀ c ∈ separator, isSeparator c = true)
    (others : RunText later rest) : RunText (taken ++ (separator ++ later)) rest := by
  induction typed with
  | last first => exact .more (first.in_front (others.closes separates)) separates others
  | more first separates' _ ih =>
      rw [List.append_assoc, List.append_assoc]
      exact .more (first.in_front (ih.closes separates')) separates' ih

/-! ## The run that is scanned -/

/-- A part that is found is the first of those that are scanned, and is the last if none follows
it. -/
theorem scanParts_of_some (found : scanPart? text = some (part, rest)) (rounds : Nat) :
    scanParts text (rounds + 1) =
      if (scanParts (rest.dropWhile isSeparator) rounds).1.isEmpty then ([part], rest)
      else (part :: (scanParts (rest.dropWhile isSeparator) rounds).1,
        (scanParts (rest.dropWhile isSeparator) rounds).2) := by
  rw [scanParts, found]

/-- The parts that are scanned are a run, and their units stand in it. -/
theorem exists_runText (ascii : text.IsAscii) (filled : (scanParts text rounds).1 ≠ []) :
    ∃ taken, text = taken ++ (scanParts text rounds).2 ∧ RunText taken (scanParts text rounds).2 ∧
      ∀ part ∈ (scanParts text rounds).1, part.unit ⊆ taken := by
  induction rounds generalizing text with
  | zero => exact (filled rfl).elim
  | succ rounds ih =>
      cases found : scanPart? text with
      | none =>
          rw [scanParts, found] at filled
          exact (filled rfl).elim
      | some read =>
          obtain ⟨part, rest⟩ := read
          obtain ⟨taken, rfl, typed, inside⟩ := exists_partText ascii found
          rw [scanParts_of_some found]
          split
          · exact ⟨taken, rfl, .last typed, List.forall_mem_singleton.mpr inside⟩
          · rename_i others
            rw [List.isEmpty_iff] at others
            have split := (List.takeWhile_append_dropWhile (p := isSeparator) (l := rest)).symm
            rw [Text.isAscii_append, split, Text.isAscii_append] at ascii
            obtain ⟨later, cut, run, behind⟩ := ih ascii.2.2 others
            dsimp only
            generalize scanParts (rest.dropWhile isSeparator) rounds = last at cut run behind ⊢
            rw [cut] at split
            refine ⟨taken ++ (rest.takeWhile isSeparator ++ later), ?_, ?_, ?_⟩
            · rw [List.append_assoc, List.append_assoc, ← split]
            · exact .more (split ▸ typed) (fun _ => List.mem_takeWhile_imp) run
            · refine List.forall_mem_cons.mpr ⟨fun c member => ?_, fun part member c unit => ?_⟩
              · exact List.mem_append_left _ (inside member)
              · exact List.mem_append_right _ (List.mem_append_right _ (behind part member unit))

/-- The scan does not go back. -/
theorem length_scanParts_le (ascii : text.IsAscii) (filled : (scanParts text rounds).1 ≠ []) :
    (scanParts text rounds).2.length ≤ text.length := by
  obtain ⟨taken, split, -, -⟩ := exists_runText ascii filled
  have length := congrArg List.length split
  rw [List.length_append] at length
  omega

/-- The scan goes on at least as far as any run that the text begins with. -/
theorem RunText.reached (typed : RunText taken rest) (ascii : (taken ++ rest).IsAscii) (rounds : Nat)
    (enough : taken.length ≤ rounds + 1) :
    (scanParts (taken ++ rest) (rounds + 1)).1 ≠ [] ∧
      (scanParts (taken ++ rest) (rounds + 1)).2.length ≤ rest.length := by
  induction typed generalizing rounds with
  | @last taken rest first =>
      obtain ⟨part, found⟩ := first.exists_scanPart? ascii
      rw [scanParts_of_some found]
      split
      · exact ⟨List.cons_ne_nil _ _, le_rfl⟩
      · rename_i others
        rw [List.isEmpty_iff] at others
        have behind : Text.IsAscii (rest.dropWhile isSeparator) := fun c member =>
          ascii c (List.mem_append_right _ ((List.dropWhile_sublist _).subset member))
        have shorter := (List.dropWhile_sublist (l := rest) isSeparator).length_le
        exact ⟨List.cons_ne_nil _ _, (length_scanParts_le behind others).trans shorter⟩
  | @more taken separator later rest first separates others ih =>
      have filled := (RunText.last first).length_pos
      have filled' := others.length_pos
      rw [List.length_append, List.length_append] at enough
      -- the part takes one of the rounds and at least one of the characters
      obtain ⟨fewer, rfl⟩ : ∃ fewer, rounds = fewer + 1 := ⟨rounds - 1, by omega⟩
      rw [List.append_assoc, List.append_assoc] at ascii ⊢
      obtain ⟨part, found⟩ := first.exists_scanPart? ascii
      rw [Text.isAscii_append, Text.isAscii_append] at ascii
      obtain ⟨onward, bound⟩ := ih ascii.2.2 fewer (by omega)
      rw [scanParts_of_some found, others.dropWhile_separator separates,
        if_neg (by rwa [List.isEmpty_iff])]
      exact ⟨List.cons_ne_nil _ _, bound⟩

/-- No unit in a text of the ASCII range has a stray letter. -/
theorem not_isMisspelled (ascii : text.IsAscii) : ¬IsMisspelled text := by
  rintro ⟨part, member, c, unit, stray⟩
  obtain ⟨taken, split, -, inside⟩ := exists_runText ascii (List.ne_nil_of_mem member)
  have small : c.toNat < 128 := by
    refine ascii c ?_
    rw [split]
    exact List.mem_append_left _ (inside part member unit)
  have beyond : ∀ c ∈ CharCase.strayLetters, ¬c.toNat < 128 :=
    List.forall_iff_forall_mem.mp (by decide)
  exact beyond c stray small

/-- The scan ends without parts, or with the text in front of the place where it stopped. -/
theorem scan?_cases (regular : ¬IsMisspelled text) :
    (scanParts text (text.length + 1)).1 = [] ∧ scan? text = .ok none ∨
      (scanParts text (text.length + 1)).1 ≠ [] ∧ ∃ seconds, scan? text =
        .ok (some ⟨text.take (text.length - (scanParts text (text.length + 1)).2.length), seconds⟩) := by
  obtain ⟨found, answer⟩ := scan?_answers_iff.mpr regular
  rw [answer]
  unfold scan? at answer
  split at answer
  · rename_i rest scanned
    rw [scanned]
    exact .inl ⟨rfl, answer.symm⟩
  · rename_i parts rest unread scanned
    rw [scanned]
    obtain ⟨seconds, -, same⟩ := map_eq_ok.mp answer
    refine .inr ⟨?_, seconds, ?_⟩
    · rintro rfl
      exact unread rfl
    · rw [same]

/-- What is scanned at the start of a text of the ASCII range. -/
theorem scan?_grammar (ascii : text.IsAscii) :
    (scan? text = .ok none ↔ ¬BeginsPart text) ∧
      (BeginsPart text → ∃ taken seconds,
        scan? text = .ok (some ⟨taken, seconds⟩) ∧ IsLongestRun text taken) := by
  have reached : ∀ taken rest, text = taken ++ rest → RunText taken rest →
      (scanParts text (text.length + 1)).1 ≠ [] ∧
        (scanParts text (text.length + 1)).2.length ≤ rest.length := by
    rintro taken rest rfl run
    exact run.reached ascii _ (Nat.le_succ_of_le (List.prefix_append taken rest).length_le)
  rcases scan?_cases (not_isMisspelled ascii) with ⟨unread, answer⟩ | ⟨filled, seconds, answer⟩
  · have none : ¬BeginsPart text := by
      rintro ⟨taken, rest, split, typed⟩
      exact (reached taken rest split (.last typed)).1 unread
    exact ⟨iff_of_true answer none, fun begins => (none begins).elim⟩
  · obtain ⟨taken, split, run, -⟩ := exists_runText ascii filled
    generalize (scanParts text (text.length + 1)).2 = rest at answer reached split run
    have length := congrArg List.length split
    rw [List.length_append] at length
    have cut : text.take (text.length - rest.length) = taken := by
      rw [length, Nat.add_sub_cancel, split, List.take_left]
    rw [cut] at answer
    have begins : BeginsPart text := by
      rw [split]
      exact run.beginsPart
    refine ⟨iff_of_false ?_ (not_not.mpr begins), fun _ => ⟨taken, seconds, answer, ⟨rest, split, run⟩, ?_⟩⟩
    · rw [answer]
      nofun
    · intro taken' rest' split' run'
      have bound := (reached taken' rest' split' run').2
      have length' := congrArg List.length split'
      rw [List.length_append] at length'
      omega

/-- A text is taken whole exactly if it is a run of parts. -/
theorem isTakenWhole_iff (ascii : text.IsAscii) : IsTakenWhole text ↔ RunText text [] := by
  obtain ⟨none, some⟩ := scan?_grammar ascii
  constructor
  · rintro ⟨seconds, answer⟩
    rw [scanAt?, List.drop_zero] at answer
    have begins : BeginsPart text := by
      by_contra unread
      rw [none.mpr unread] at answer
      cases answer
    obtain ⟨taken, seconds', answer', ⟨rest, split, run⟩, -⟩ := some begins
    rw [answer] at answer'
    cases answer'
    rwa [List.self_eq_append_right.mp split] at run
  · intro run
    have begins := run.beginsPart
    rw [List.append_nil] at begins
    obtain ⟨taken, seconds, answer, ⟨rest, split, -⟩, longest⟩ := some begins
    have whole := longest text [] (List.append_nil text).symm run
    obtain rfl : taken = text := List.IsPrefix.eq_of_length_le ⟨rest, split.symm⟩ whole
    exact ⟨seconds, answer⟩

/-- **Durations.** In a text of the ASCII range nothing is scanned where no part begins, and otherwise the
longest run of parts.  So two texts that are taken whole are taken whole behind one another, with any
separator between them. -/
theorem scanAt?_grammar :
    (∀ (text : Text) (start : Nat), text.IsAscii →
      (scanAt? text start = .ok none ↔ ¬BeginsPart (text.drop start)) ∧
        (BeginsPart (text.drop start) → ∃ taken seconds,
          scanAt? text start = .ok (some ⟨taken, seconds⟩) ∧
            IsLongestRun (text.drop start) taken)) ∧
    ∀ first separator last : Text, first.IsAscii → last.IsAscii →
      (∀ c ∈ separator, isSeparator c = true) → IsTakenWhole first → IsTakenWhole last →
        IsTakenWhole (first ++ (separator ++ last)) := by
  constructor
  · intro text start ascii
    exact scan?_grammar fun c member => ascii c (List.mem_of_mem_drop member)
  · intro first separator last ascii ascii' separates whole whole'
    have run := (isTakenWhole_iff ascii).mp whole
    have run' := (isTakenWhole_iff ascii').mp whole'
    have between : separator.IsAscii := fun c member => (isSeparator_apart (separates c member)).1
    rw [isTakenWhole_iff (Text.isAscii_append.mpr ⟨ascii, Text.isAscii_append.mpr ⟨between, ascii'⟩⟩)]
    exact run.append separates run'

/-- What is scanned in `to 1.5h, 3 DAYs,` from the first digit on, without the last comma, while nothing is
from the point on.  Each of the two parts is taken whole by itself. -/
theorem scanAt?_grammar_of_hours :
    let text : Text := ['t', 'o', ' ', '1', '.', '5', 'h', ',', ' ', '3', ' ', 'D', 'A', 'Y', 's', ',']
    let hours : Text := ['1', '.', '5', 'h']
    let days : Text := ['3', ' ', 'D', 'A', 'Y', 's']
    (∃ seconds, scanAt? text 3 = .ok (some ⟨hours ++ ([',', ' '] ++ days), seconds⟩)) ∧
      IsLongestRun (text.drop 3) (hours ++ ([',', ' '] ++ days)) ∧ ¬BeginsPart (text.drop 4) ∧
      IsTakenWhole hours ∧ IsTakenWhole days ∧ IsTakenWhole (hours ++ ([',', ' '] ++ days)) := by
  intro text hours days
  obtain ⟨scans, joins⟩ := scanAt?_grammar
  have ascii : text.IsAscii := by decide
  have first : PartText hours (text.drop 7) := by
    refine ⟨['1', '.', '5'], [], ['h'], rfl, ?_, nofun, ?_, ?_⟩
    · exact @IsQuantity.pointed ['1'] ['5'] (List.cons_ne_nil _ _) (List.all_eq_true.mp rfl)
        (List.cons_ne_nil _ _) (List.all_eq_true.mp rfl)
    · exact ⟨['h'], by decide, .cons (.inl rfl) .nil⟩
    · rintro c ⟨⟩
      decide
  obtain ⟨taken, seconds, answer, longest⟩ := (scans text 3 ascii).2 ⟨hours, text.drop 7, rfl, first⟩
  have whole : IsTakenWhole hours := ⟨_, rfl⟩
  have whole' : IsTakenWhole days := ⟨_, rfl⟩
  have known : ∃ seconds, scanAt? text 3 = .ok (some ⟨hours ++ ([',', ' '] ++ days), seconds⟩) :=
    ⟨_, rfl⟩
  have same : taken = hours ++ ([',', ' '] ++ days) := by
    obtain ⟨_, known⟩ := known
    rw [known] at answer
    cases answer
    rfl
  rw [same] at longest
  exact ⟨known, longest, (scans text 4 ascii).1.mp rfl, whole, whole',
    joins hours [',', ' '] days (by decide) (by decide) (List.all_eq_true.mp rfl) whole whole'⟩

end Duration

end TableSearch
