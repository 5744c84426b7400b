import Mathlib.Data.List.Basic
import Mathlib.Tactic.MkIffOfInductiveProp
import TableSearch.Delimited.Reader
import TableSearch.Delimited.Writer
import TableSearch.Proofs.Answers

/-! # Reading what was written

A field survives being written and read (`TableSearch.Delimited.Survives`) if it is no longer than
the reader allows and, should it hold a carriage return, is put between quotes for another reason.

`TableSearch.Delimited.read_write`: records of fields that survive are read as they were written.
`TableSearch.Delimited.returns_lt_of_lost`: otherwise the reader stops, or what it reads has fewer
carriage returns than what was written.
-/

namespace TableSearch

namespace Delimited

/-- Whether a field is read as it was written. -/
@[mk_iff]
structure Survives (field : Text) : Prop where
  short : field.length ≤ fieldLimit
  guarded : '\r' ∈ field → needsQuotes field = true

instance : DecidablePred Survives := fun field =>
  decidable_of_iff _ (survives_iff field).symm

variable {draft later : Draft} {place : Place} {c : Char} {rest field seen text : Text}
  {fields record done : List Text} {records found : List (List Text)} {count : Nat}

/-! ## One character -/

/-- A character that ends no record is read on its own. -/
theorem readFrom_of_step (taken : step ',' draft c = .ok (later, none)) :
    readFrom ',' draft (c :: rest) = readFrom ',' later rest := by
  rw [readFrom, taken]
  change (readFrom ',' later rest >>= fun found => .ok found) = _
  cases readFrom ',' later rest <;> rfl

/-- A character that ends a record puts it in front of the records behind it. -/
theorem readFrom_of_record (taken : step ',' draft c = .ok (later, some record)) :
    readFrom ',' draft (c :: rest) = (readFrom ',' later rest).map (record :: ·) := by
  rw [readFrom, taken]
  change (readFrom ',' later rest >>= fun found => .ok (record :: found)) = _
  cases readFrom ',' later rest <;> rfl

theorem readFrom_of_error {problem : ReadError} (failed : step ',' draft c = .error problem) :
    readFrom ',' draft (c :: rest) = .error problem := by
  rw [readFrom, failed]
  rfl

/-- Whether a reader stands before a field, and no carriage return has ended the last record. -/
def Place.IsOpening (place : Place) : Prop :=
  place = .recordStart false ∨ place = .fieldStart

/-- At the start of a field a quote opens a quoted one, a comma ends an empty one, and any other
character opens a plain one. -/
theorem step_opening (opening : place.IsOpening) (solid : isBreak c = false) :
    step ',' ⟨place, fields, [], 0⟩ c = .ok
      (if c = '"' then ⟨.quoted, fields, [], 0⟩
        else if c = ',' then ⟨.fieldStart, [] :: fields, [], 0⟩
        else ⟨.plain, fields, [c], 1⟩, none) := by
  have room : ¬fieldLimit ≤ 0 := by decide
  rcases opening with rfl | rfl
  · simp only [step, Bool.false_and, solid, Bool.false_eq_true, ↓reduceIte, Draft.push, room]
    split
    · rfl
    · split <;> rfl
  · simp only [step, solid, Bool.false_eq_true, ↓reduceIte, Draft.push, room]
    split
    · rfl
    · split <;> rfl

/-- A character of a field is added to it, unless the field is as long as it may be. -/
theorem readFrom_of_push
    (taken : step ',' draft c = (draft.push place c).map (·, none)) :
    readFrom ',' draft (c :: rest) =
      if draft.length < fieldLimit then
        readFrom ',' ⟨place, draft.fields, c :: draft.field, draft.length + 1⟩ rest
      else .error .longField := by
  rw [Draft.push] at taken
  by_cases room : draft.length < fieldLimit
  · rw [if_neg (Nat.not_le_of_lt room)] at taken
    rw [if_pos room]
    exact readFrom_of_step taken
  · rw [if_pos (Nat.le_of_not_lt room)] at taken
    rw [if_neg room]
    exact readFrom_of_error taken

/-! ## One field -/

/-- A field is read character by character up to the limit, however they are spelled. -/
theorem readFrom_spelled {spell : Char → Text} (room : count ≤ fieldLimit)
    (pushes : ∀ c ∈ field, ∀ seen count rest,
      readFrom ',' ⟨place, fields, seen, count⟩ (spell c ++ rest) =
        if count < fieldLimit then readFrom ',' ⟨place, fields, c :: seen, count + 1⟩ rest
        else .error .longField) :
    readFrom ',' ⟨place, fields, seen, count⟩ (field.flatMap spell ++ rest) =
      if count + field.length ≤ fieldLimit then
        readFrom ',' ⟨place, fields, field.reverse ++ seen, count + field.length⟩ rest
      else .error .longField := by
  induction field generalizing seen count with
  | nil => exact (if_pos room).symm
  | cons c field ih =>
      rw [List.forall_mem_cons] at pushes
      rw [List.flatMap_cons, List.append_assoc, pushes.1, List.length_cons, List.reverse_cons,
        List.append_assoc, List.singleton_append, ← Nat.add_assoc, Nat.add_right_comm]
      by_cases full : count < fieldLimit
      · rw [if_pos full]
        exact ih full pushes.2
      · rw [if_neg full, if_neg (by omega)]

/-- A field between quotes. -/
theorem readFrom_quoted :
    readFrom ',' ⟨.quoted, fields, [], 0⟩
        (field.flatMap (fun c => if c = '"' then ['"', '"'] else [c]) ++ '"' :: rest) =
      if field.length ≤ fieldLimit then
        readFrom ',' ⟨.quoteInside, fields, field.reverse, field.length⟩ rest
      else .error .longField := by
  have closes : ∀ seen count, step ',' ⟨.quoted, fields, seen, count⟩ '"' =
      .ok (⟨.quoteInside, fields, seen, count⟩, none) := fun _ _ => rfl
  rw [readFrom_spelled (Nat.zero_le _), Nat.zero_add, List.append_nil]
  · by_cases short : field.length ≤ fieldLimit
    · rw [if_pos short, if_pos short]
      exact readFrom_of_step (closes _ _)
    · rw [if_neg short, if_neg short]
  · intro c _ seen count rest
    by_cases quote : c = '"'
    · rw [if_pos quote, quote]
      exact (readFrom_of_step (closes _ _)).trans (readFrom_of_push rfl)
    · rw [if_neg quote]
      refine readFrom_of_push ?_
      simp only [step, quote, ↓reduceIte]

theorem needsQuotes_eq_false_iff :
    needsQuotes field = false ↔ ∀ c ∈ field, c ≠ ',' ∧ c ≠ '"' ∧ c ≠ '\n' := by
  simp only [needsQuotes, List.any_eq_false, Bool.or_eq_true, beq_iff_eq, not_or, and_assoc]

theorem isBreak_eq_false_iff : isBreak c = false ↔ c ≠ '\n' ∧ c ≠ '\r' := by
  simp only [isBreak, Bool.or_eq_false_iff, beq_eq_false_iff_ne]

/-- A field without commas, quotes and line breaks that has begun outside quotes. -/
theorem readFrom_plain (room : count ≤ fieldLimit) (bare : needsQuotes field = false)
    (solid : '\r' ∉ field) :
    readFrom ',' ⟨.plain, fields, seen, count⟩ (field ++ rest) =
      if count + field.length ≤ fieldLimit then
        readFrom ',' ⟨.plain, fields, field.reverse ++ seen, count + field.length⟩ rest
      else .error .longField := by
  have same : field.flatMap (fun c => [c]) = field := List.flatMap_singleton' field
  rw [← readFrom_spelled room, same]
  intro c member seen count rest
  obtain ⟨comma, -, feed⟩ := needsQuotes_eq_false_iff.mp bare c member
  have inside : isBreak c = false := by
    rw [isBreak_eq_false_iff]
    refine ⟨feed, ?_⟩
    rintro rfl
    exact solid member
  refine readFrom_of_push ?_
  simp only [step, inside, comma, Bool.false_eq_true, ↓reduceIte]

/-- Whether a reader may stand at a place behind a field that it began to read at another one. -/
def IsBehind (before : Place) (field : Text) (after : Place) : Prop :=
  after = .quoteInside ∨ after = .plain ∨ after = before ∧ field = []

/-- A written field is read up to its end, unless it is too long. -/
theorem readFrom_field (opening : place.IsOpening)
    (guarded : '\r' ∈ field → needsQuotes field = true) :
    ∃ after, IsBehind place field after ∧ ∀ fields rest,
      readFrom ',' ⟨place, fields, [], 0⟩ (writeField field ++ rest) =
        if field.length ≤ fieldLimit then
          readFrom ',' ⟨after, fields, field.reverse, field.length⟩ rest
        else .error .longField := by
  rw [writeField]
  by_cases quotes : needsQuotes field = true
  · refine ⟨.quoteInside, .inl rfl, ?_⟩
    intro fields rest
    have opened : step ',' ⟨place, fields, [], 0⟩ '"' = .ok (⟨.quoted, fields, [], 0⟩, none) :=
      step_opening opening rfl
    rw [if_pos quotes, quote, List.append_assoc, List.cons_append, List.singleton_append,
      readFrom_of_step opened, readFrom_quoted]
  · rw [if_neg quotes]
    have bare : needsQuotes field = false := Bool.not_eq_true _ |>.mp quotes
    match field with
    | [] =>
        refine ⟨place, .inr (.inr ⟨rfl, rfl⟩), ?_⟩
        intro fields rest
        exact (if_pos (Nat.zero_le _)).symm
    | c :: field =>
        refine ⟨.plain, .inr (.inl rfl), ?_⟩
        intro fields rest
        have solid : '\r' ∉ c :: field := fun member => quotes (guarded member)
        rw [List.mem_cons, not_or] at solid
        rw [needsQuotes_eq_false_iff, List.forall_mem_cons, ← needsQuotes_eq_false_iff] at bare
        obtain ⟨⟨comma, quote, feed⟩, bare⟩ := bare
        have inside : isBreak c = false :=
          isBreak_eq_false_iff.mpr ⟨feed, fun same => solid.1 same.symm⟩
        have begun : step ',' ⟨place, fields, [], 0⟩ c = .ok (⟨.plain, fields, [c], 1⟩, none) := by
          rw [step_opening opening inside, if_neg quote, if_neg comma]
        rw [List.cons_append, readFrom_of_step begun, readFrom_plain (by decide) bare solid.2,
          List.length_cons, List.reverse_cons, Nat.add_comm]

/-- A comma behind a field ends the field. -/
theorem step_comma (opening : place.IsOpening) {after : Place} (behind : IsBehind place field after) :
    step ',' ⟨after, fields, field.reverse, count⟩ ',' =
      .ok (⟨.fieldStart, field :: fields, [], 0⟩, none) := by
  have closed : (Draft.mk after fields field.reverse count).close =
      ⟨.fieldStart, field :: fields, [], 0⟩ := by
    rw [Draft.close, List.reverse_reverse]
  rw [← closed]
  rcases behind with rfl | rfl | ⟨rfl, rfl⟩
  · rfl
  · rfl
  · rcases opening with rfl | rfl <;> rfl

/-- A line feed behind a field ends the record, unless the line is blank. -/
theorem step_newline {after : Place} (behind : IsBehind place field after)
    (visible : place = .fieldStart ∨ field ≠ []) :
    step ',' ⟨after, fields, field.reverse, count⟩ '\n' =
      .ok (.empty, some (fields.reverse ++ [field])) := by
  have closed : (Draft.mk after fields field.reverse count).record = fields.reverse ++ [field] := by
    rw [Draft.record, Draft.close, List.reverse_reverse, List.reverse_cons]
  rw [← closed]
  rcases behind with rfl | rfl | ⟨rfl, rfl⟩
  · rfl
  · rfl
  · rcases visible with rfl | filled
    · rfl
    · exact (filled rfl).elim

/-! ## One record -/

theorem join_cons_cons {separator first second : Text} {pieces : List Text} :
    Text.join separator (first :: second :: pieces) =
      first ++ separator ++ Text.join separator (second :: pieces) :=
  rfl

/-- The rest of a record whose fields survive is read up to its end. -/
theorem readFrom_join (opening : place.IsOpening) (survive : ∀ field ∈ fields, Survives field)
    (filled : fields ≠ []) (visible : place = .fieldStart ∨ fields ≠ [[]]) :
    readFrom ',' ⟨place, done, [], 0⟩
        (Text.join [','] (fields.map writeField) ++ '\n' :: rest) =
      (readFrom ',' .empty rest).map ((done.reverse ++ fields) :: ·) := by
  induction fields generalizing place done with
  | nil => exact (filled rfl).elim
  | cons field others ih =>
      rw [List.forall_mem_cons] at survive
      obtain ⟨⟨short, guarded⟩, later⟩ := survive
      obtain ⟨after, behind, reads⟩ := readFrom_field opening guarded
      match others with
      | [] =>
          have shown : place = .fieldStart ∨ field ≠ [] := by
            refine visible.imp_right fun other empty => other ?_
            rw [empty]
          change readFrom ',' _ (writeField field ++ _) = _
          rw [reads, if_pos short]
          exact readFrom_of_record (step_newline behind shown)
      | second :: others =>
          rw [List.map_cons, List.map_cons, join_cons_cons, List.append_assoc, List.append_assoc,
            reads, if_pos short, List.singleton_append, readFrom_of_step (step_comma opening behind)]
          refine (ih (.inr rfl) later (List.cons_ne_nil _ _) (.inl rfl)).trans ?_
          rw [List.reverse_cons, List.append_assoc, List.singleton_append]

/-- A record is written as its fields with commas between them and a line feed, unless it is a
single empty field. -/
theorem writeRecord_eq (several : record ≠ [[]]) :
    writeRecord record = Text.join [','] (record.map writeField) ++ ['\n'] := by
  unfold writeRecord
  split
  · exact (several rfl).elim
  · rfl

/-- A written record whose fields survive is read as it was. -/
theorem readFrom_writeRecord (survive : ∀ field ∈ record, Survives field) (filled : record ≠ []) :
    readFrom ',' .empty (writeRecord record ++ rest) =
      (readFrom ',' .empty rest).map (record :: ·) := by
  by_cases single : record = [[]]
  · rw [single]
    change readFrom ',' .empty ('"' :: '"' :: '\n' :: rest) = _
    rw [readFrom_of_step rfl, readFrom_of_step rfl]
    exact readFrom_of_record rfl
  · rw [writeRecord_eq single, List.append_assoc, List.singleton_append]
    exact readFrom_join (.inl rfl) survive filled (.inr single)

/-- **Records.** Records of fields that survive are read as they were written. -/
theorem read_write (filled : ∀ record ∈ records, record ≠ [])
    (survive : ∀ record ∈ records, ∀ field ∈ record, Survives field) :
    read ',' (write records) = .ok records := by
  rw [read, write]
  induction records with
  | nil => rfl
  | cons record records ih =>
      rw [List.forall_mem_cons] at filled survive
      rw [List.flatMap_cons, readFrom_writeRecord survive.1 filled.1, ih filled.2 survive.2]
      rfl

/-! ## Carriage returns -/

/-- How many carriage returns some texts have. -/
def returns (texts : List Text) : Nat :=
  texts.flatten.count '\r'

theorem returns_nil : returns [] = 0 :=
  rfl

theorem returns_cons : returns (text :: fields) = text.count '\r' + returns fields :=
  List.count_append

theorem returns_append : returns (fields ++ done) = returns fields + returns done := by
  rw [returns, List.flatten_append, List.count_append]
  rfl

theorem returns_take_le : returns (fields.take count) ≤ returns fields := by
  have split : returns (fields.take count ++ fields.drop count) =
      returns (fields.take count) + returns (fields.drop count) := returns_append
  rw [List.take_append_drop] at split
  omega

theorem returns_reverse : returns fields.reverse = returns fields :=
  (List.reverse_perm fields).flatten.count_eq '\r'

/-- How many carriage returns a reader has taken into the record that it reads. -/
def Draft.returns (draft : Draft) : Nat :=
  Delimited.returns (draft.field :: draft.fields)

theorem returns_record : returns draft.record = draft.returns := by
  rw [Draft.record, Draft.close, returns_reverse, returns_cons, Draft.returns, returns_cons,
    List.count_reverse]

theorem returns_close : draft.close.returns = draft.returns := by
  rw [Draft.returns, Draft.close, returns_cons, returns_cons, List.count_nil, Nat.zero_add,
    List.count_reverse, Draft.returns, returns_cons]

/-- Adding a character to a field adds a carriage return only if it is one. -/
theorem returns_push (pushed : draft.push place c = .ok later) :
    later.returns = draft.returns + [c].count '\r' := by
  rw [Draft.push] at pushed
  split at pushed
  · cases pushed
  · cases pushed
    rw [Draft.returns, returns_cons, List.count_cons, Draft.returns, returns_cons,
      List.count_singleton]
    exact Nat.add_right_comm _ _ _

/-- Whether an answer of a step has no carriage return but those of a draft and a character. -/
def AddsOnly (draft : Draft) (c : Char)
    (answer : Except ReadError (Draft × Option (List Text))) : Prop :=
  ∀ later ended, answer = .ok (later, ended) →
    later.returns + returns (ended.getD []) ≤ draft.returns + [c].count '\r'

theorem addsOnly_push : AddsOnly draft c ((draft.push place c).map (·, none)) := by
  intro later ended answer
  obtain ⟨added, known, same⟩ := map_eq_ok.mp answer
  cases same
  exact Nat.le_of_eq (returns_push known)

theorem addsOnly_move (bounded : later.returns ≤ draft.returns) :
    AddsOnly draft c (.ok (later, none)) := by
  intro _ _ answer
  cases answer
  exact Nat.le_add_right_of_le bounded

/-- A step that ends a record adds no carriage return. -/
theorem addsOnly_end {afterReturn : Bool} (bounded : returns record ≤ draft.returns) :
    AddsOnly draft c (.ok (⟨.recordStart afterReturn, [], [], 0⟩, some record)) := by
  intro _ _ answer
  cases answer
  change 0 + returns record ≤ _
  rw [Nat.zero_add]
  exact Nat.le_add_right_of_le bounded

/-- A character adds no carriage return but itself. -/
theorem step_addsOnly : AddsOnly draft c (step ',' draft c) := by
  have closed : draft.close.returns ≤ draft.returns := Nat.le_of_eq returns_close
  have ended : returns draft.record ≤ draft.returns := Nat.le_of_eq returns_record
  have both : returns draft.close.record ≤ draft.returns :=
    Nat.le_of_eq (returns_record.trans returns_close)
  have turned : ∀ {place}, AddsOnly draft c
      (.ok (⟨place, draft.fields, draft.field, draft.length⟩, none)) :=
    addsOnly_move (Nat.le_refl draft.returns)
  have entered : AddsOnly draft c
      (if c = '"' then .ok ({ draft with place := .quoted }, none)
        else if c = ',' then .ok (draft.close, none)
        else (draft.push .plain c).map (·, none)) := by
    split
    · exact turned
    · split
      · exact addsOnly_move closed
      · exact addsOnly_push
  rw [step]
  cases draft.place with
  | recordStart afterReturn =>
      simp only
      split
      · exact addsOnly_move (Nat.zero_le _)
      · split
        · exact addsOnly_end (Nat.zero_le _)
        · exact entered
  | fieldStart =>
      simp only
      split
      · exact addsOnly_end ended
      · exact entered
  | plain =>
      simp only
      split
      · exact addsOnly_end ended
      · split
        · exact addsOnly_move closed
        · exact addsOnly_push
  | quoted =>
      simp only
      split
      · exact turned
      · exact addsOnly_push
  | quoteInside =>
      simp only
      split
      · exact addsOnly_push
      · split
        · split
          · exact addsOnly_end both
          · exact addsOnly_move closed
        · split
          · exact addsOnly_end ended
          · exact addsOnly_push

/-- A carriage return outside quotes ends a record and is lost. -/
theorem step_return (outside : draft.place ≠ .quoted) :
    ∃ record, step ',' draft '\r' = .ok (⟨.recordStart true, [], [], 0⟩, some record) ∧
      returns record ≤ draft.returns := by
  have whole : returns draft.record ≤ draft.returns := Nat.le_of_eq returns_record
  unfold step
  cases place : draft.place with
  | recordStart afterReturn => exact ⟨[], by cases afterReturn <;> rfl, Nat.zero_le _⟩
  | fieldStart => exact ⟨_, rfl, whole⟩
  | plain => exact ⟨_, rfl, whole⟩
  | quoted => exact (outside place).elim
  | quoteInside => exact ⟨_, rfl, whole⟩

/-- What is read has no more carriage returns than the text. -/
theorem readFrom_returns (answer : readFrom ',' draft text = .ok found) :
    returns found.flatten ≤ draft.returns + text.count '\r' := by
  induction text generalizing draft found with
  | nil =>
      rw [readFrom] at answer
      split at answer
      · cases answer
        exact Nat.zero_le _
      · cases answer
        rw [List.flatten_singleton, returns_record]
        exact Nat.le_refl _
  | cons c rest ih =>
      rw [readFrom] at answer
      obtain ⟨⟨later, ended⟩, taken, onward⟩ := bind_eq_ok.mp answer
      obtain ⟨remaining, known, same⟩ := bind_eq_ok.mp onward
      cases same
      have first := step_addsOnly later ended taken
      have last := ih known
      have shown : returns (ended.toList ++ remaining).flatten =
          returns (ended.getD []) + returns remaining.flatten := by
        rw [List.flatten_append, returns_append]
        cases ended with
        | none => rfl
        | some record => rw [Option.toList_some, List.flatten_singleton, Option.getD_some]
      have counted : ([c] ++ rest).count '\r' = [c].count '\r' + rest.count '\r' :=
        List.count_append
      rw [List.singleton_append] at counted
      rw [shown, counted]
      omega

/-! ## Fields that are lost -/

/-- A carriage return outside quotes ends a record, so that what is read has fewer of them than what
was written. -/
theorem readFrom_lost (outside : draft.place ≠ .quoted)
    (answer : readFrom ',' draft ('\r' :: rest) = .ok found) :
    returns found.flatten < draft.returns + ('\r' :: rest).count '\r' := by
  obtain ⟨record, taken, bounded⟩ := step_return outside
  rw [readFrom_of_record taken] at answer
  obtain ⟨remaining, known, rfl⟩ := map_eq_ok.mp answer
  have others : returns remaining.flatten ≤ 0 + rest.count '\r' := readFrom_returns known
  rw [List.flatten_cons, returns_append, List.count_cons_self]
  omega

/-- Of a field with a carriage return and without quotes, what is read has fewer of them. -/
theorem readFrom_field_lost (opening : place.IsOpening) (bare : needsQuotes field = false)
    (inside : '\r' ∈ field)
    (answer : readFrom ',' ⟨place, done, [], 0⟩ (writeField field ++ rest) = .ok found) :
    returns found.flatten < returns done + (writeField field ++ rest).count '\r' := by
  obtain ⟨front, back, split, solid⟩ := List.eq_append_cons_of_mem inside
  have bare' : needsQuotes front = false := by
    rw [needsQuotes_eq_false_iff] at bare ⊢
    intro c member
    exact bare c (split ▸ List.mem_append_left _ member)
  have unquoted : ∀ {text}, needsQuotes text = false → writeField text = text := by
    intro text bare
    rw [writeField, bare, if_neg Bool.false_ne_true]
  have written : writeField field ++ rest = writeField front ++ '\r' :: (back ++ rest) := by
    rw [unquoted bare, unquoted bare', split, List.append_assoc, List.cons_append]
  obtain ⟨after, behind, reads⟩ := readFrom_field opening fun member => (solid member).elim
  have outside : after ≠ .quoted := by
    rintro rfl
    rcases behind with absent | absent | ⟨rfl, -⟩
    · cases absent
    · cases absent
    · rcases opening with absent | absent <;> cases absent
  rw [written, reads] at answer
  split at answer
  · have fewer := readFrom_lost outside answer
    rw [Draft.returns, returns_cons, List.count_reverse] at fewer
    rw [written, List.count_append, unquoted bare']
    simp only at fewer
    omega
  · cases answer

/-- Pieces that are joined begin with the first of them. -/
theorem exists_join_append {separator first : Text} {pieces : List Text} :
    ∃ tail, Text.join separator (first :: pieces) ++ rest = first ++ tail := by
  match pieces with
  | [] => exact ⟨rest, rfl⟩
  | second :: pieces =>
      refine ⟨separator ++ Text.join separator (second :: pieces) ++ rest, ?_⟩
      rw [join_cons_cons, List.append_assoc, List.append_assoc, List.append_assoc]

/-- Doubling quotes adds no carriage return. -/
theorem count_quoted : (field.flatMap fun c => if c = '"' then ['"', '"'] else [c]).count '\r' =
    field.count '\r' := by
  induction field with
  | nil => rfl
  | cons c field ih =>
      rw [List.flatMap_cons, List.count_append, ih, List.count_cons, Nat.add_comm]
      congr 1
      by_cases same : c = '"'
      · rw [same]
        decide
      · rw [if_neg same, List.count_singleton]

/-- A written field has the carriage returns of the field. -/
theorem count_writeField : (writeField field).count '\r' = field.count '\r' := by
  unfold writeField
  split
  · have ends : ['"'].count '\r' = 0 := by decide
    rw [quote, List.cons_append, List.count_cons, List.count_append, count_quoted, ends]
    rfl
  · rfl

/-- Written fields, with commas between them, have the carriage returns of the fields. -/
theorem count_join : (Text.join [','] (fields.map writeField)).count '\r' = returns fields := by
  induction fields with
  | nil => rfl
  | cons field others ih =>
      match others with
      | [] =>
          rw [returns_cons]
          exact count_writeField
      | second :: others =>
          have comma : [','].count '\r' = 0 := by decide
          rw [List.map_cons, List.map_cons, join_cons_cons, ← List.map_cons, List.count_append,
            List.count_append, ih, count_writeField, comma, Nat.add_zero]
          exact returns_cons.symm

/-- Written records have the carriage returns of their fields. -/
theorem count_write : (write records).count '\r' = returns records.flatten := by
  induction records with
  | nil => rfl
  | cons record records ih =>
      have feed : ['\n'].count '\r' = 0 := by decide
      have line : (writeRecord record).count '\r' = returns record := by
        by_cases single : record = [[]]
        · rw [single]
          decide
        · rw [writeRecord_eq single, List.count_append, count_join, feed]
          rfl
      rw [write, List.flatMap_cons, List.count_append, line, ← write, ih, List.flatten_cons,
        returns_append]

/-- A record with a field that does not survive ends the reading, or carriage returns are lost. -/
theorem readFrom_join_lost (opening : place.IsOpening)
    (lost : ∃ field ∈ fields, ¬Survives field)
    (answer : readFrom ',' ⟨place, done, [], 0⟩
      (Text.join [','] (fields.map writeField) ++ '\n' :: rest) = .ok found) :
    returns found.flatten <
      returns done + (Text.join [','] (fields.map writeField) ++ '\n' :: rest).count '\r' := by
  induction fields generalizing place done with
  | nil =>
      obtain ⟨field, absent, -⟩ := lost
      cases absent
  | cons field others ih =>
      by_cases survives : Survives field
      · obtain ⟨after, behind, reads⟩ := readFrom_field opening survives.guarded
        have later : ∃ field ∈ others, ¬Survives field := by
          obtain ⟨other, member, gone⟩ := lost
          rcases List.mem_cons.mp member with rfl | inside
          · exact (gone survives).elim
          · exact ⟨other, inside, gone⟩
        match others with
        | [] =>
            obtain ⟨other, absent, -⟩ := later
            cases absent
        | second :: others =>
            have comma : [','].count '\r' = 0 := by decide
            rw [List.map_cons, List.map_cons, join_cons_cons, ← List.map_cons] at answer ⊢
            rw [List.append_assoc, List.append_assoc, reads, if_pos survives.short,
              List.singleton_append, readFrom_of_step (step_comma opening behind)] at answer
            have fewer := ih (.inr rfl) later answer
            rw [returns_cons] at fewer
            rw [List.append_assoc, List.append_assoc, List.count_append, List.count_append, comma,
              count_writeField]
            omega
      · obtain ⟨tail, split⟩ : ∃ tail, Text.join [','] ((field :: others).map writeField) ++
            '\n' :: rest = writeField field ++ tail := exists_join_append
        rw [split] at answer ⊢
        by_cases guarded : '\r' ∈ field → needsQuotes field = true
        · obtain ⟨after, behind, reads⟩ := readFrom_field opening guarded
          have long : ¬field.length ≤ fieldLimit := fun short => survives ⟨short, guarded⟩
          rw [reads, if_neg long] at answer
          cases answer
        · rw [Classical.not_imp, Bool.not_eq_true] at guarded
          exact readFrom_field_lost opening guarded.2 guarded.1 answer

/-- **Lost fields.** If some field does not survive, the reader stops, or what it reads has fewer
carriage returns than what was written. -/
theorem returns_lt_of_lost (filled : ∀ record ∈ records, record ≠ [])
    (lost : ∃ record ∈ records, ∃ field ∈ record, ¬Survives field)
    (answer : read ',' (write records) = .ok found) :
    returns found.flatten < returns records.flatten := by
  rw [read, write] at answer
  induction records generalizing found with
  | nil =>
      obtain ⟨record, absent, -⟩ := lost
      cases absent
  | cons record records ih =>
      rw [List.forall_mem_cons] at filled
      rw [List.flatMap_cons] at answer
      by_cases survive : ∀ field ∈ record, Survives field
      · rw [readFrom_writeRecord survive filled.1] at answer
        obtain ⟨remaining, known, rfl⟩ := map_eq_ok.mp answer
        have later : ∃ record ∈ records, ∃ field ∈ record, ¬Survives field := by
          obtain ⟨other, member, field, inside, gone⟩ := lost
          rcases List.mem_cons.mp member with rfl | known
          · exact (gone (survive field inside)).elim
          · exact ⟨other, known, field, inside, gone⟩
        have fewer := ih filled.2 later known
        rw [List.flatten_cons, List.flatten_cons, returns_append, returns_append]
        omega
      · have gone : ∃ field ∈ record, ¬Survives field := by
          simpa only [not_forall, exists_prop] using survive
        have several : record ≠ [[]] := by
          rintro rfl
          refine survive ?_
          rw [List.forall_mem_singleton]
          decide
        have whole : returns (record :: records).flatten =
            (writeRecord record ++ records.flatMap writeRecord).count '\r' := by
          rw [← count_write, write, List.flatMap_cons]
        rw [whole]
        rw [writeRecord_eq several, List.append_assoc, List.singleton_append] at answer ⊢
        have fewer := readFrom_join_lost (.inl rfl) gone answer
        rwa [returns_nil, Nat.zero_add] at fewer

end Delimited

end TableSearch
