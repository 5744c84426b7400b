import Mathlib.Data.List.Nodup
import TableSearch.Proofs.Text.Join
import TableSearch.Proofs.Toml.Value

/-! # Documents that were written

`TableSearch.Toml.read_write`: sections that can be written (`TableSearch.Toml.IsWritable`), with no
integer that is too long, are read back as a table of tables, in the order in which they were written.

While the lines of the sections are read, the document holds exactly what stands above
(`TableSearch.Toml.Document.Holds`): only whole sections are declared and only lists inside them are
closed, so no later section or field is refused.
-/

namespace TableSearch

namespace Toml

/-- The fields of a section as they are read. -/
def fieldsOf (fields : List (Text × Setting)) : Table :=
  fields.map fun field => (field.1, field.2.value)

/-- The table of sections as it is read. -/
def tableOf (sections : List (Text × List (Text × Setting))) : Table :=
  sections.map fun part => (part.1, .table (fieldsOf part.2))

/-- Whether a text is a key without quotes. -/
structure IsName (name : Text) : Prop where
  filled : name ≠ []
  bare : ∀ c ∈ name, isBare c = true

/-- Whether fields with values of a kind can be written in one section. -/
structure IsSection (fits : Setting → Prop) (fields : List (Text × Setting)) : Prop where
  named : ∀ field ∈ fields, IsName field.1
  values : ∀ field ∈ fields, fits field.2
  distinct : (fields.map Prod.fst).Nodup

/-- Whether sections with values of a kind can be written in one document. -/
structure IsWritable (fits : Setting → Prop) (sections : List (Text × List (Text × Setting))) :
    Prop where
  named : ∀ part ∈ sections, IsName part.1
  parts : ∀ part ∈ sections, IsSection fits part.2
  distinct : (sections.map Prod.fst).Nodup

variable {fits : Setting → Prop} {sections done : List (Text × List (Text × Setting))}
  {above fields : List (Text × Setting)}
  {document : Document} {table inner later : Table} {value old : Value} {setting : Setting}
  {name field gap rest : Text} {c stop : Char} {room offset rounds : Nat}

/-! ## Tables -/

namespace Table

theorem lookup_fresh (fresh : name ∉ table.map Prod.fst) : table.lookup name = none := by
  refine List.lookup_eq_none_iff.mpr fun other member => ?_
  rw [bne_iff_ne]
  rintro rfl
  exact fresh (List.mem_map_of_mem member)

theorem lookup_last (fresh : name ∉ table.map Prod.fst) :
    (table ++ [(name, value)]).lookup name = some value := by
  rw [List.lookup_append, lookup_fresh fresh, Option.none_or, List.lookup_cons_self]

theorem put_fresh (fresh : name ∉ table.map Prod.fst) :
    table.put name value = table ++ [(name, value)] := by
  rw [put, lookup_fresh fresh]
  rfl

/-- A value that is put for the last name replaces the one it had. -/
theorem put_last (fresh : name ∉ table.map Prod.fst) :
    (table ++ [(name, old)]).put name value = table ++ [(name, value)] := by
  have kept : table.map (fun field => if field.1 = name then (name, value) else field) = table := by
    refine (List.map_congr_left fun other member => if_neg ?_).trans (List.map_id table)
    rintro rfl
    exact fresh (List.mem_map_of_mem member)
  rw [put, lookup_last fresh, Option.isSome_some, if_pos rfl, List.map_append, kept, List.map_cons,
    if_pos rfl, List.map_nil]

theorem alter_fresh (fresh : name ∉ table.map Prod.fst) :
    alter true some [name] table = some (table ++ [(name, .table [])]) := by
  rw [alter, lookup_fresh fresh]
  exact congrArg some (put_fresh fresh)

/-- A change inside the last section leaves the sections before it as they are. -/
theorem alter_last {change : Table → Option Table} (fresh : name ∉ table.map Prod.fst)
    (changed : change inner = some later) :
    alter true change [name] (table ++ [(name, .table inner)]) =
      some (table ++ [(name, .table later)]) := by
  rw [alter, lookup_last fresh]
  change (change inner).map _ = _
  rw [changed, Option.map_some, put_last fresh]

end Table

theorem names_tableOf : (tableOf sections).map Prod.fst = sections.map Prod.fst := by
  rw [tableOf, List.map_map]
  rfl

theorem names_fieldsOf : (fieldsOf fields).map Prod.fst = fields.map Prod.fst := by
  rw [fieldsOf, List.map_map]
  rfl

/-! ## The document above a line -/

namespace Document

/-- Whether a document is what the sections above have made of it. -/
structure Holds (document : Document) (sections : List (Text × List (Text × Setting))) : Prop where
  table : document.table = tableOf sections
  declared : ∀ key ∈ document.marks.declared, ∃ name ∈ sections.map Prod.fst, key = [name]
  closed : ∀ key ∈ document.marks.closed, 2 ≤ key.length
  passed : document.passed = []

theorem holds_empty : empty.Holds [] where
  table := rfl
  declared _ absent := nomatch absent
  closed _ absent := nomatch absent
  passed := rfl

/-- What is closed lies inside a section. -/
theorem Holds.isClosed_name (holds : document.Holds sections) :
    document.marks.isClosed [name] = false := by
  rw [Marks.isClosed, List.isEmpty_cons, Bool.not_false, Bool.true_and, List.any_eq_false]
  intro key member leads
  have short := (List.isPrefixOf_iff_prefix.mp leads).length_le
  have long := holds.closed key member
  rw [List.length_singleton] at short
  omega

/-- A section that does not stand above has not been declared. -/
theorem Holds.isDeclared_fresh (holds : document.Holds sections)
    (fresh : name ∉ sections.map Prod.fst) : document.marks.isDeclared [name] = false := by
  rw [Marks.isDeclared, Bool.eq_false_iff, ne_eq, List.contains_iff_mem]
  intro member
  obtain ⟨other, known, same⟩ := holds.declared [name] member
  obtain ⟨rfl⟩ := List.cons.inj same
  exact fresh known

/-- A header opens a section that is not there yet. -/
theorem Holds.openTable (holds : document.Holds sections)
    (fresh : name ∉ sections.map Prod.fst) :
    ∃ later, document.endSection.openTable [name] = .ok later ∧
      later.Holds (sections ++ [(name, [])]) ∧ later.header = [name] := by
  have ended : document.endSection = document := by
    rw [endSection, holds.passed, List.foldl_nil, ← holds.passed]
  have opened := Table.alter_fresh (@names_tableOf sections ▸ fresh)
  rw [ended, Document.openTable, holds.isDeclared_fresh fresh, holds.isClosed_name, holds.table,
    opened]
  refine ⟨_, rfl, ⟨?_, ?_, holds.closed, holds.passed⟩, rfl⟩
  · rw [tableOf, tableOf, List.map_append]
    rfl
  · rw [List.map_append]
    intro key member
    rcases List.mem_cons.mp member with rfl | member
    · exact ⟨name, List.mem_append_right _ List.mem_cons_self, rfl⟩
    · obtain ⟨other, known, same⟩ := holds.declared key member
      exact ⟨other, List.mem_append_left _ known, same⟩

/-- A field that its section does not have yet is added at the end. -/
theorem Holds.assign (holds : document.Holds (done ++ [(name, fields)]))
    (header : document.header = [name]) (fresh : name ∉ done.map Prod.fst)
    (apart : field ∉ fields.map Prod.fst) :
    ∃ later, document.assign [field] setting.value = .ok later ∧
      later.Holds (done ++ [(name, fields ++ [(field, setting)])]) ∧ later.header = [name] := by
  have way : passedBy [name] [field] = [] := rfl
  have parent : [name] ++ [field].dropLast = [name] := rfl
  have table : document.table = tableOf done ++ [(name, .table (fieldsOf fields))] := by
    rw [holds.table, tableOf, List.map_append]
    rfl
  have added : addField field setting.value (fieldsOf fields) =
      some (fieldsOf fields ++ [(field, setting.value)]) := by
    have absent := @names_fieldsOf fields ▸ apart
    rw [addField, Table.lookup_fresh absent, Table.put_fresh absent]
    rfl
  have changed := Table.alter_last (@names_tableOf done ▸ fresh) added
  have last : [field].getLastD [] = field := rfl
  rw [Document.assign, header, way, parent, last, List.find?_nil, holds.isClosed_name, table,
    changed]
  refine ⟨_, rfl, ⟨?_, ?_, ?_, ?_⟩, rfl⟩
  · rw [tableOf, tableOf, List.map_append, List.map_singleton, fieldsOf, fieldsOf, List.map_append]
    rfl
  · intro key member
    have before : key ∈ document.marks.declared := by
      split_ifs at member <;> exact member
    obtain ⟨other, known, same⟩ := holds.declared key before
    rw [List.map_append] at known ⊢
    exact ⟨other, known, same⟩
  · intro key member
    split_ifs at member
    · rcases List.mem_cons.mp member with rfl | member
      · exact Nat.le_refl 2
      · exact holds.closed key member
    · exact holds.closed key member
  · exact (List.append_nil _).trans holds.passed

end Document

/-! ## Keys -/

/-- A name begins with a character that can stand in a bare key. -/
theorem IsName.exists_cons (named : IsName name) : ∃ first more, name = first :: more ∧
    ∀ other, isBare other = false → first ≠ other := by
  obtain ⟨first, more, whole⟩ := List.exists_cons_of_ne_nil named.filled
  refine ⟨first, more, whole, ?_⟩
  rintro other quoted rfl
  exact Bool.false_ne_true (quoted.symm.trans (named.bare first (whole ▸ List.mem_cons_self)))

/-- A name is read up to the first character that cannot stand in a bare key. -/
theorem readName_append (named : IsName name) (opens : rest.head? = some stop)
    (stops : isBare stop = false) :
    readName ⟨name ++ rest, offset⟩ = .ok (name, ⟨rest, offset + name.length⟩) := by
  obtain ⟨first, more, whole, apart⟩ := named.exists_cons
  have next : (⟨name ++ rest, offset⟩ : Cursor).next? = some first := by
    rw [whole]
    rfl
  have bare : isBare first = true := named.bare first (whole ▸ List.mem_cons_self)
  have run : (⟨name ++ rest, offset⟩ : Cursor).run isBare = name := by
    obtain ⟨behind, rfl⟩ := List.head?_eq_some_iff.mp opens
    exact Cursor.run_append named.bare stops
  rw [readName, next]
  split
  case h_1 same => exact absurd (Option.some.inj same) (apart '"' rfl)
  case h_2 same => exact absurd (Option.some.inj same) (apart '\'' rfl)
  case h_3 same =>
    obtain rfl := Option.some.inj same
    rw [if_pos bare, run]
    exact congrArg (fun later => Except.ok (name, later)) Cursor.drop_append
  case h_4 same => cases same

theorem isBare_of_isSpace (blank : isSpace c = true) : isBare c = false := by
  rw [isSpace, Bool.or_eq_true, beq_iff_eq, beq_iff_eq] at blank
  rcases blank with rfl | rfl <;> rfl

theorem isSpace_of_isBare (bare : isBare c = true) : isSpace c = false := by
  rw [Bool.eq_false_iff]
  intro blank
  exact Bool.false_ne_true ((isBare_of_isSpace blank).symm.trans bare)

/-- A key of one name, with blanks before what stands behind it. -/
theorem readKey_append (named : IsName name) (blank : ∀ c ∈ gap, isSpace c = true)
    (stops : isBare stop = false) (other : isSpace stop = false) (apart : stop ≠ '.') :
    readKey ⟨name ++ (gap ++ stop :: rest), offset⟩ (rounds + 1) =
      .ok ([name], ⟨stop :: rest, offset + name.length + gap.length⟩) := by
  have taken : readName ⟨name ++ (gap ++ stop :: rest), offset⟩ =
      .ok (name, ⟨gap ++ stop :: rest, offset + name.length⟩) := by
    cases gap with
    | nil => exact readName_append named rfl stops
    | cons c gap =>
        exact readName_append named rfl (isBare_of_isSpace (blank c List.mem_cons_self))
  have ends : ¬(stop :: rest).head? = some '.' := fun same => apart (Option.some.inj same)
  rw [readKey, taken]
  simp only [bind, Except.bind, Cursor.skip_append blank other, Cursor.next?, ends, ↓reduceIte]
  rfl

/-! ## Lines -/

variable {later : Document}

/-- The header of a section is read as its name, and opens its table if the document lets it. -/
theorem readHeader_append (named : IsName name)
    (opened : document.endSection.openTable [name] = .ok later) :
    readHeader document ⟨'[' :: (name ++ ']' :: rest), offset⟩ =
      .ok (later, ⟨rest, offset + (name.length + 2)⟩) := by
  obtain ⟨first, more, whole, apart⟩ := named.exists_cons
  have single : (⟨'[' :: (name ++ ']' :: rest), offset⟩ : Cursor).sees ['[', '['] = false := by
    rw [Cursor.sees, whole]
    simp only [List.cons_append, List.isPrefixOf, beq_eq_false_iff_ne.mpr (apart '[' rfl).symm,
      Bool.false_and, Bool.and_false]
  have start : ((⟨'[' :: (name ++ ']' :: rest), offset⟩ : Cursor).drop 1).skip isSpace =
      ⟨name ++ ([] ++ ']' :: rest), offset + 1⟩ := by
    have bare := named.bare first (whole ▸ List.mem_cons_self)
    rw [whole]
    exact Cursor.skip_none (isSpace_of_isBare bare)
  have key {rounds : Nat} : readKey ⟨name ++ ([] ++ ']' :: rest), offset + 1⟩ (rounds + 1) =
      .ok ([name], ⟨']' :: rest, offset + 1 + name.length⟩) :=
    readKey_append named (List.forall_mem_nil _) rfl rfl (by decide)
  have closes : (⟨']' :: rest, offset + 1 + name.length⟩ : Cursor).sees [']'] = true := rfl
  simp only [readHeader, single, Bool.false_eq_true, ↓reduceIte, start, key, bind, Except.bind,
    opened, closes]
  have length : offset + 1 + name.length + 1 = offset + (name.length + 2) := by omega
  exact congrArg (fun place => Except.ok (later, Cursor.mk rest place)) length

/-- Nothing is left between a value or a header that was written and the end of its line. -/
theorem skip_lineEnd : skipComment ((⟨'\n' :: rest, offset⟩ : Cursor).skip isSpace) =
    .ok ⟨'\n' :: rest, offset⟩ := by
  rw [Cursor.skip_none rfl, skipComment_none rfl (by decide)]

/-- A line with a header is one statement, after which the next line is read. -/
theorem readStatements_header (named : IsName name)
    (opened : document.endSection.openTable [name] = .ok later) :
    readStatements room document ⟨'[' :: (name ++ ']' :: '\n' :: rest), offset⟩ (rounds + 1) =
      readStatements room later ⟨rest, offset + (name.length + 3)⟩ rounds := by
  have start : (⟨'[' :: (name ++ ']' :: '\n' :: rest), offset⟩ : Cursor).skip isSpace =
      ⟨'[' :: (name ++ ']' :: '\n' :: rest), offset⟩ := Cursor.skip_none rfl
  rw [readStatements, start]
  change (readHeader document _ >>= _) = _
  rw [readHeader_append named opened]
  simp only [bind, Except.bind, skip_lineEnd]
  rfl

/-- The line of a field. -/
def fieldLine (field : Text × Setting) : Text :=
  field.1 ++ " = ".toList ++ writeSetting field.2 ++ ['\n']

/-- A line with a field is its name, an equals sign between blanks, its value and the end of the
line. -/
theorem fieldLine_append : fieldLine (name, setting) ++ rest =
    name ++ ([' '] ++ '=' :: ' ' :: (writeSetting setting ++ '\n' :: rest)) := by
  have equals : " = ".toList = [' ', '=', ' '] := rfl
  simp only [fieldLine, equals, List.append_assoc, List.cons_append, List.nil_append]

/-- No written value begins with a blank, so that the blanks in front of it are skipped and no
more. -/
theorem writeSetting_eq_cons (setting : Setting) :
    ∃ first more, writeSetting setting = first :: more ∧ isSpace first = false := by
  cases setting with
  | text value => exact ⟨'"', _, rfl, rfl⟩
  | int value =>
      obtain ⟨first, more, whole, apart⟩ := @ofInt_eq_cons value
      refine ⟨first, more, whole, ?_⟩
      rw [isSpace, beq_eq_false_iff_ne.mpr (apart ' ' (by decide) rfl),
        beq_eq_false_iff_ne.mpr (apart '\t' (by decide) rfl)]
      rfl
  | bool value => cases value <;> exact ⟨_, _, rfl, rfl⟩
  | texts items => cases items <;> exact ⟨'[', _, rfl, rfl⟩

/-- What the line of a field assigns is what is read behind the sign of equality. -/
theorem readAssignment_fieldLine (named : IsName name) : ∃ rounds,
    (writeSetting setting).length < rounds ∧
    readAssignment room document ⟨fieldLine (name, setting) ++ rest, offset⟩ =
      (readValue room ⟨writeSetting setting ++ '\n' :: rest, offset + name.length + 3⟩ rounds).bind
        fun found => match document.assign [name] found.1 with
          | .error problem => fail found.2 problem
          | .ok later => .ok (later, found.2) := by
  generalize value_eq : writeSetting setting ++ '\n' :: rest = value
  have key {rounds : Nat} : readKey ⟨name ++ ([' '] ++ '=' :: ' ' :: value), offset⟩ (rounds + 1) =
      .ok ([name], ⟨'=' :: ' ' :: value, offset + name.length + 1⟩) :=
    readKey_append named (List.forall_mem_singleton.mpr rfl) rfl rfl (by decide)
  have behind : ((⟨'=' :: ' ' :: value, offset + name.length + 1⟩ : Cursor).drop 1).skip isSpace =
      ⟨value, offset + name.length + 3⟩ := by
    obtain ⟨first, more, written, solid⟩ := writeSetting_eq_cons setting
    have blank : ∀ c ∈ [' '], isSpace c = true := List.forall_mem_singleton.mpr rfl
    rw [← value_eq, written]
    exact Cursor.skip_append blank solid
  have equals : (⟨'=' :: ' ' :: value, offset + name.length + 1⟩ : Cursor).next? = some '=' := rfl
  refine ⟨2 * (name ++ ([' '] ++ '=' :: ' ' :: value)).length + 2, ?_, ?_⟩
  · simp only [← value_eq, List.length_append, List.length_cons]
    omega
  · simp only [readAssignment, fieldLine_append, value_eq, key, bind, Except.bind, equals, ne_eq,
      not_true_eq_false, ↓reduceIte, behind]
    rfl

/-- A line that begins with a name is read as an assignment, and has to end behind the value. -/
theorem readStatements_fieldLine (named : IsName name) :
    readStatements room document ⟨fieldLine (name, setting) ++ rest, offset⟩ (rounds + 1) =
      (readAssignment room document ⟨fieldLine (name, setting) ++ rest, offset⟩).bind fun read =>
        (skipComment (read.2.skip isSpace)).bind fun last => match last.next? with
          | none => .ok read.1
          | some '\n' => readStatements room read.1 (last.drop 1) rounds
          | some _ => fail last .expectedLineEnd := by
  obtain ⟨first, more, whole, apart⟩ := named.exists_cons
  have bare : isBare first = true := named.bare first (whole ▸ List.mem_cons_self)
  have start : (⟨fieldLine (name, setting) ++ rest, offset⟩ : Cursor).skip isSpace =
      ⟨fieldLine (name, setting) ++ rest, offset⟩ := by
    rw [fieldLine_append, whole]
    exact Cursor.skip_none (isSpace_of_isBare bare)
  have next : (⟨fieldLine (name, setting) ++ rest, offset⟩ : Cursor).next? = some first := by
    rw [fieldLine_append, whole]
    rfl
  rw [readStatements, start, next]
  split
  case h_1 same => cases same
  case h_2 same => exact absurd (Option.some.inj same) (apart '\n' rfl)
  case h_3 c _ same =>
    obtain rfl := Option.some.inj same
    simp only [bare, Bool.true_or, ↓reduceIte]
    rfl

/-- A line with a field that is short enough is one statement, after which the next line is read. -/
theorem readStatements_field (roomy : listRoom ≤ room) (named : IsName name)
    (short : setting.IsShort)
    (assigned : document.assign [name] setting.value = .ok later) :
    readStatements room document ⟨fieldLine (name, setting) ++ rest, offset⟩ (rounds + 1) =
      readStatements room later ⟨rest, offset + name.length + 3 + (writeSetting setting).length + 1⟩
        rounds := by
  obtain ⟨_, enough, assigns⟩ := readAssignment_fieldLine named
  rw [readStatements_fieldLine named, assigns, readValue_writeSetting roomy short enough]
  simp only [Except.bind, assigned, skip_lineEnd]
  rfl

/-- An integer with too many digits ends the reading. -/
theorem readStatements_long {number : Int} (named : IsName name)
    (long : ¬(Setting.int number).IsShort) :
    readStatements room document ⟨fieldLine (name, .int number) ++ rest, offset⟩ (rounds + 1) =
      .error (.longInteger (Text.ofNat number.natAbs).length) := by
  obtain ⟨more, enough, assigns⟩ := readAssignment_fieldLine named
  obtain ⟨more, rfl⟩ : ∃ fewer, more = fewer + 1 := ⟨more - 1, by omega⟩
  have read : readValue room ⟨writeSetting (.int number) ++ '\n' :: rest, offset + name.length + 3⟩
      (more + 1) = .error (.longInteger (Text.ofNat number.natAbs).length) :=
    readValue_ofInt.trans (if_pos (Nat.not_le.mp long))
  rw [readStatements_fieldLine named, assigns, read]
  rfl

/-! ## Sections -/

/-- A name that comes later is not among those above. -/
theorem notMem_of_nodup_append {names more : List Text} (distinct : (names ++ name :: more).Nodup) :
    name ∉ names :=
  fun member => (List.nodup_append.mp distinct).2.2 name member name List.mem_cons_self rfl

/-- The lines of a section are read one by one, each of them putting its field behind those read
before. -/
theorem readStatements_fields (roomy : listRoom ≤ room) (holds : document.Holds (done ++ [(name, above)]))
    (header : document.header = [name]) (fresh : name ∉ done.map Prod.fst)
    (whole : IsSection Setting.IsShort (above ++ fields)) : ∃ later place,
      readStatements room document ⟨fields.flatMap fieldLine ++ rest, offset⟩ (fields.length + rounds) =
        readStatements room later ⟨rest, place⟩ rounds ∧
      later.Holds (done ++ [(name, above ++ fields)]) := by
  induction fields generalizing document above offset with
  | nil =>
      rw [List.length_nil, Nat.zero_add, List.append_nil]
      exact ⟨document, offset, rfl, holds⟩
  | cons field fields ih =>
      have member : field ∈ above ++ field :: fields := List.mem_append_right _ List.mem_cons_self
      have apart : field.1 ∉ above.map Prod.fst := by
        have distinct := whole.distinct
        rw [List.map_append, List.map_cons] at distinct
        exact notMem_of_nodup_append distinct
      obtain ⟨next, assigned, known, header⟩ := holds.assign header fresh apart
      have line : readStatements room document
          ⟨fieldLine field ++ (fields.flatMap fieldLine ++ rest), offset⟩
          (fields.length + rounds + 1) =
            readStatements room next ⟨fields.flatMap fieldLine ++ rest,
              offset + field.1.length + 3 + (writeSetting field.2).length + 1⟩
              (fields.length + rounds) :=
        readStatements_field roomy (whole.named field member) (whole.values field member) assigned
      have rounds_eq : (field :: fields).length + rounds = fields.length + rounds + 1 :=
        Nat.add_right_comm _ 1 rounds
      have regroup : above ++ field :: fields = above ++ [field] ++ fields := List.append_cons ..
      rw [regroup] at whole ⊢
      obtain ⟨later, place, read, held⟩ := ih known header whole
      refine ⟨later, place, ?_, held⟩
      rw [List.flatMap_cons, List.append_assoc, rounds_eq]
      exact line.trans read

theorem writeSection_append : writeSection name fields ++ rest =
    '[' :: (name ++ ']' :: '\n' :: (fields.flatMap fieldLine ++ rest)) := by
  rw [writeSection, List.append_assoc, List.append_assoc]
  rfl

/-- A section is read as its header and its fields, and the document then holds it behind the
sections above. -/
theorem readStatements_section (roomy : listRoom ≤ room) (holds : document.Holds done) (named : IsName name)
    (fresh : name ∉ done.map Prod.fst) (whole : IsSection Setting.IsShort fields) : ∃ later place,
      readStatements room document ⟨writeSection name fields ++ rest, offset⟩
        (fields.length + rounds + 1) = readStatements room later ⟨rest, place⟩ rounds ∧
      later.Holds (done ++ [(name, fields)]) := by
  obtain ⟨next, opened, known, header⟩ := holds.openTable fresh
  obtain ⟨later, place, read, held⟩ := readStatements_fields roomy known header fresh whole
  refine ⟨later, place, ?_, held⟩
  rw [writeSection_append, readStatements_header named opened, read]

/-- Every statement of a section takes at least one character, so a reader with a round for each
character has enough of them. -/
theorem length_le_writeSection : fields.length + 1 ≤ (writeSection name fields).length := by
  have lines : fields.length ≤ (fields.flatMap fieldLine).length := by
    induction fields with
    | nil => exact Nat.zero_le _
    | cons field fields ih =>
        rw [List.flatMap_cons, List.length_append, List.length_cons, fieldLine, List.length_append,
          List.length_singleton]
        omega
  have written := congrArg List.length (@writeSection_append fields name [])
  simp only [List.append_nil, List.length_cons, List.length_append] at written
  omega

/-- Each section takes at least as many characters as the reader takes rounds for its lines. -/
theorem readStatements_write (roomy : listRoom ≤ room) (holds : document.Holds done)
    (whole : IsWritable Setting.IsShort (done ++ sections))
    (enough : (write sections).length ≤ rounds) : ∃ later,
      readStatements room document ⟨write sections, offset⟩ rounds = .ok later ∧
      later.Holds (done ++ sections) := by
  induction sections generalizing document done offset rounds with
  | nil =>
      rw [List.append_nil]
      exact ⟨document, by cases rounds <;> rfl, holds⟩
  | cons part sections ih =>
      obtain ⟨name, fields⟩ := part
      have member : (name, fields) ∈ done ++ (name, fields) :: sections :=
        List.mem_append_right _ List.mem_cons_self
      have fresh : name ∉ done.map Prod.fst := by
        have distinct := whole.distinct
        rw [List.map_append, List.map_cons] at distinct
        exact notMem_of_nodup_append distinct
      have long := @length_le_writeSection fields name
      have regroup : done ++ (name, fields) :: sections = done ++ [(name, fields)] ++ sections :=
        List.append_cons ..
      cases sections with
      | nil =>
          change (writeSection name fields).length ≤ rounds at enough
          obtain ⟨more, rfl⟩ : ∃ more, rounds = fields.length + more + 1 :=
            ⟨rounds - (fields.length + 1), by omega⟩
          obtain ⟨later, place, read, held⟩ := readStatements_section roomy holds (whole.named _ member)
            fresh (whole.parts _ member)
          rw [List.append_nil] at read
          refine ⟨later, read.trans ?_, held⟩
          cases more <;> rfl
      | cons other sections =>
          have written : write ((name, fields) :: other :: sections) =
              writeSection name fields ++ '\n' :: write (other :: sections) := List.append_assoc ..
          rw [written, List.length_append, List.length_cons] at enough
          -- The empty line between two sections takes a round of its own.
          obtain ⟨more, rfl⟩ : ∃ more, rounds = fields.length + (more + 1) + 1 :=
            ⟨rounds - (fields.length + 2), by omega⟩
          obtain ⟨next, place, read, held⟩ := readStatements_section roomy holds (whole.named _ member)
            fresh (whole.parts _ member)
          rw [regroup] at whole ⊢
          have room : (write (other :: sections)).length ≤ more := by omega
          obtain ⟨later, found, last⟩ := ih held whole room
          rw [written]
          exact ⟨later, read.trans found, last⟩

/-! ## Carriage returns -/

/-- A text without carriage returns has no line ends to be unified. -/
theorem joinReturns_of_notMem {text : Text} (none : '\r' ∉ text) : joinReturns text = text := by
  induction text with
  | nil => rfl
  | cons c text ih =>
      rw [List.mem_cons, not_or] at none
      rw [joinReturns.eq_def]
      split
      case h_1 same =>
        obtain ⟨rfl, -⟩ := List.cons.inj same
        exact absurd rfl none.1
      case h_2 same =>
        obtain ⟨rfl, rfl⟩ := List.cons.inj same
        exact congrArg _ (ih none.2)
      case h_3 absent => cases absent

theorem IsName.return_notMem (named : IsName name) : '\r' ∉ name :=
  fun member => Bool.false_ne_true (named.bare '\r' member)

/-- No written integer holds a carriage return. -/
theorem return_notMem_ofInt {number : Int} : '\r' ∉ Text.ofInt number := by
  rw [ofInt_eq, List.mem_append]
  rintro (sign | digit)
  · split_ifs at sign
    · exact absurd sign (by decide)
    · exact List.not_mem_nil sign
  · exact absurd (isDigit_of_mem_ofNat digit) (by decide)

/-- No written value holds a carriage return. -/
theorem return_notMem_writeSetting : '\r' ∉ writeSetting setting := by
  cases setting with
  | text value => exact return_notMem_string
  | int value => exact return_notMem_ofInt
  | bool value => cases value <;> decide
  | texts items =>
      cases items with
      | nil => decide
      | cons item items =>
          have written : writeSetting (.texts (item :: items)) =
              ['[', '\n'] ++ ((item :: items).flatMap itemLine ++ [']']) := rfl
          rw [written, List.mem_append, List.mem_append, List.mem_flatMap]
          rintro (opening | ⟨other, -, line⟩ | closing)
          · exact absurd opening (by decide)
          · rw [itemLine, List.mem_append, List.mem_append] at line
            rcases line with (blank | inside) | ending
            · exact absurd blank (by decide)
            · exact return_notMem_string inside
            · exact absurd ending (by decide)
          · exact absurd closing (by decide)

/-- No written section holds a carriage return. -/
theorem return_notMem_writeSection (headed : IsName name)
    (named : ∀ field ∈ fields, IsName field.1) : '\r' ∉ writeSection name fields := by
  rw [writeSection, List.cons_append, List.cons_append, List.mem_cons, List.mem_append,
    List.mem_append, List.mem_flatMap]
  rintro (bracket | (inside | closing) | ⟨field, member, line⟩)
  · exact absurd bracket (by decide)
  · exact headed.return_notMem inside
  · exact absurd closing (by decide)
  · rw [List.mem_append, List.mem_append, List.mem_append] at line
    rcases line with ((key | equals) | value) | ending
    · exact (named field member).return_notMem key
    · exact absurd equals (by decide)
    · exact return_notMem_writeSetting value
    · exact absurd ending (by decide)

/-- Nothing that is written holds a carriage return, so joining line breaks does not change it. -/
theorem return_notMem_write (headed : ∀ part ∈ sections, IsName part.1)
    (named : ∀ part ∈ sections, ∀ field ∈ part.2, IsName field.1) : '\r' ∉ write sections := by
  intro member
  rw [write] at member
  rcases Text.of_mem_join member with feed | ⟨piece, inside, known⟩
  · exact absurd feed (by decide)
  · obtain ⟨part, listed, rfl⟩ := List.mem_map.mp inside
    exact return_notMem_writeSection (headed part listed) (named part listed) known

/-! ## Documents -/

/-- **Sections are read back as they were written.** -/
theorem read_write (roomy : listRoom ≤ room) (whole : IsWritable Setting.IsShort sections) :
    read room (write sections) = .ok (tableOf sections) := by
  have named (part) (member : part ∈ sections) := (whole.parts part member).named
  rw [read, joinReturns_of_notMem (return_notMem_write whole.named named), readUnified]
  obtain ⟨later, found, holds⟩ : ∃ later, readStatements room .empty (Cursor.start (write sections))
      ((write sections).length + 1) = .ok later ∧ later.Holds ([] ++ sections) :=
    readStatements_write roomy Document.holds_empty whole (Nat.le_succ _)
  rw [found]
  exact congrArg Except.ok holds.table

/-- Sections that can be written under one condition on their values can be written under a weaker
one. -/
theorem IsWritable.mono {fits' : Setting → Prop} (whole : IsWritable fits sections)
    (weaker : ∀ setting, fits setting → fits' setting) : IsWritable fits' sections where
  named := whole.named
  parts part member := {
    named := (whole.parts part member).named
    values := fun field inside => weaker _ ((whole.parts part member).values field inside)
    distinct := (whole.parts part member).distinct }
  distinct := whole.distinct

/-- A section with a single field can be written if its names and its value can. -/
theorem isWritable_singleton {header : Text} (headed : IsName header) (named : IsName name)
    (fit : fits setting) : IsWritable fits [(header, [(name, setting)])] where
  named := List.forall_mem_singleton.mpr headed
  parts := List.forall_mem_singleton.mpr {
    named := List.forall_mem_singleton.mpr named
    values := List.forall_mem_singleton.mpr fit
    distinct := List.nodup_singleton name }
  distinct := List.nodup_singleton header

/-- A document with one integer that has too many digits is not read. -/
theorem read_long {header : Text} {number : Int} (headed : IsName header) (named : IsName name)
    (long : ¬(Setting.int number).IsShort) :
    read room (write [(header, [(name, .int number)])]) =
      .error (.longInteger (Text.ofNat number.natAbs).length) := by
  have plain : '\r' ∉ write [(header, [(name, .int number)])] :=
    return_notMem_write (List.forall_mem_singleton.mpr headed)
      (List.forall_mem_singleton.mpr (List.forall_mem_singleton.mpr named))
  have written : write [(header, [(name, .int number)])] =
      '[' :: (header ++ ']' :: '\n' :: (fieldLine (name, .int number) ++ [])) :=
    (List.append_nil _).symm.trans (writeSection_append.trans (by rw [List.flatMap_singleton]))
  obtain ⟨rounds, enough⟩ : ∃ rounds,
      (write [(header, [(name, .int number)])]).length + 1 = rounds + 1 + 1 := by
    rw [written]
    exact ⟨_, rfl⟩
  have fresh : header ∉ ([] : List (Text × List (Text × Setting))).map Prod.fst := List.not_mem_nil
  obtain ⟨later, opened, -, -⟩ := Document.holds_empty.openTable fresh
  rw [read, joinReturns_of_notMem plain, readUnified, enough, written, Cursor.start,
    readStatements_header headed opened, readStatements_long named long]
  rfl

end Toml

end TableSearch
