import Mathlib.Data.List.TakeWhile
import TableSearch.Toml.Reader
import TableSearch.Toml.Writer

/-! # Strings that were written

A string is read as the text that it was written for (`TableSearch.Toml.readLineString_string`):
every character is read back from the way it is spelled, and no spelling begins with the quote that
ends a string.
-/

namespace TableSearch

variable {offset rounds : Nat} {c stop : Char} {written rest text : Text}

/-! ## Cursors -/

namespace Cursor

variable {accepts : Char → Bool}

theorem drop_append : (⟨written ++ rest, offset⟩ : Cursor).drop written.length =
    ⟨rest, offset + written.length⟩ := by
  rw [drop, List.drop_left]

/-- The longest run of accepted characters ends at the first character that is not accepted. -/
theorem run_append (all : ∀ c ∈ written, accepts c = true) (stops : accepts stop = false) :
    (⟨written ++ stop :: rest, offset⟩ : Cursor).run accepts = written := by
  rw [run, List.takeWhile_append_of_pos all,
    List.takeWhile_cons_of_neg (by rw [stops]; exact Bool.false_ne_true), List.append_nil]

theorem skip_append (all : ∀ c ∈ written, accepts c = true) (stops : accepts stop = false) :
    (⟨written ++ stop :: rest, offset⟩ : Cursor).skip accepts =
      ⟨stop :: rest, offset + written.length⟩ := by
  rw [skip, run_append all stops, drop_append]

theorem skip_none (stops : accepts stop = false) :
    (⟨stop :: rest, offset⟩ : Cursor).skip accepts = ⟨stop :: rest, offset⟩ := by
  have nothing : ∀ c ∈ ([] : Text), accepts c = true := fun _ absent => nomatch absent
  exact skip_append nothing stops

end Cursor

namespace Toml

/-! ## One character -/

theorem hexValue?_hexDigit : ∀ digit < 16, hexValue? (Text.hexDigit digit) = some digit := by
  decide

/-- The four digits of an escaped character are read as that character, if it comes before the
surrogates. -/
theorem readCode_hexDigits (small : c.toNat < 0xD800) :
    readCode ⟨Text.hexDigits c.toNat 4 ++ rest, offset⟩ 4 = .ok ([c], ⟨rest, offset + 4⟩) := by
  have digit (n : Nat) : hexValue? (Text.hexDigit (n % 16)) = some (n % 16) :=
    hexValue?_hexDigit _ (Nat.mod_lt _ (by decide))
  have value : 16 * (16 * (16 * (16 * 0 + c.toNat / 16 / 16 / 16 % 16) + c.toNat / 16 / 16 % 16) +
      c.toNat / 16 % 16) + c.toNat % 16 = c.toNat := by
    omega
  simp only [readCode, Text.hexDigits, List.nil_append, List.cons_append, List.take_succ_cons,
    List.take_zero, List.mapM_cons, List.mapM_nil, digit, Option.pure_def, Option.bind_eq_bind,
    Option.bind_some, List.foldl_cons, List.foldl_nil, value, List.length_cons, List.length_nil,
    Nat.zero_add, Nat.reduceAdd, ne_eq, not_true_eq_false, ↓reduceIte, small, decide_true,
    Bool.true_or, Char.ofNat_toNat, Cursor.drop, List.drop_succ_cons, List.drop_zero]

/-- A character is either written as it is or as an escape that stands for it. -/
theorem stringChar_cases (c : Char) :
    (stringChar c = [c] ∧ c ≠ '"' ∧ c ≠ '\\' ∧ isControl c = false) ∨
      ∃ mark more, stringChar c = '\\' :: mark :: more ∧ ∀ rest offset,
        readEscape false ⟨'\\' :: mark :: (more ++ rest), offset⟩ =
          .ok ([c], ⟨rest, offset + (more.length + 2)⟩) := by
  by_cases quote : c = '"'
  · subst quote
    exact .inr ⟨'"', [], rfl, fun _ _ => rfl⟩
  by_cases slash : c = '\\'
  · subst slash
    exact .inr ⟨'\\', [], rfl, fun _ _ => rfl⟩
  by_cases feed : c = '\n'
  · subst feed
    exact .inr ⟨'n', [], rfl, fun _ _ => rfl⟩
  by_cases carriage : c = '\r'
  · subst carriage
    exact .inr ⟨'r', [], rfl, fun _ _ => rfl⟩
  by_cases back : c.toNat = 8
  · obtain rfl : c = '\x08' := Char.toNat_inj.mp back
    exact .inr ⟨'b', [], rfl, fun _ _ => rfl⟩
  by_cases form : c.toNat = 12
  · obtain rfl : c = '\x0c' := Char.toNat_inj.mp form
    exact .inr ⟨'f', [], rfl, fun _ _ => rfl⟩
  simp only [stringChar, quote, slash, feed, carriage, back, form, ↓reduceIte]
  by_cases control : ((c.toNat < 32 && c ≠ '\t') || c.toNat = 127) = true
  · refine .inr ⟨'u', Text.hexDigits c.toNat 4, if_pos control, fun rest offset => ?_⟩
    have small : c.toNat < 0xD800 := by
      simp only [Bool.or_eq_true, Bool.and_eq_true, decide_eq_true_eq] at control
      omega
    have after : (⟨'\\' :: 'u' :: (Text.hexDigits c.toNat 4 ++ rest), offset⟩ : Cursor).drop 2 =
        ⟨Text.hexDigits c.toNat 4 ++ rest, offset + 2⟩ := rfl
    exact (congrArg (readCode · 4) after).trans (readCode_hexDigits small)
  · refine .inl ⟨if_neg control, quote, slash, ?_⟩
    rw [Bool.not_eq_true] at control
    simpa only [isControl, bne, beq_eq_decide, decide_not] using control

/-- No character of a string is spelled with a quote in front, so none looks like the end of the
string. -/
theorem stringChar_eq_cons (c : Char) :
    ∃ first more, stringChar c = first :: more ∧ first ≠ '"' := by
  rcases stringChar_cases c with ⟨plain, quote, -⟩ | ⟨mark, more, escaped, -⟩
  · exact ⟨c, [], plain, quote⟩
  · exact ⟨'\\', mark :: more, escaped, by decide⟩

/-! ## Strings -/

/-- One round of the reader takes one character back from its spelling. -/
theorem readBasic_stringChar : readBasic false ⟨stringChar c ++ rest, offset⟩ (rounds + 1) =
    (readBasic false ⟨rest, offset + (stringChar c).length⟩ rounds).map
      fun found => (c :: found.1, found.2) := by
  rcases stringChar_cases c with ⟨plain, quote, slash, control⟩ | ⟨mark, more, escaped, stands⟩
  · have next : (⟨c :: rest, offset⟩ : Cursor).drop 1 = ⟨rest, offset + 1⟩ := rfl
    rw [plain, List.singleton_append, readBasic]
    simp only [control, Bool.false_and, Bool.not_false, Bool.and_true, Bool.false_eq_true,
      ↓reduceIte, next]
    cases readBasic false ⟨rest, offset + 1⟩ rounds <;> rfl
  · rw [escaped, List.cons_append, List.cons_append, readBasic, stands]
    change (readBasic false ⟨rest, offset + (more.length + 2)⟩ rounds >>= _) = _
    cases readBasic false ⟨rest, offset + (more.length + 2)⟩ rounds <;> rfl

/-- The reader takes the spellings of all characters back, one in each round, and stops behind the
closing quote. -/
theorem readBasic_flatMap (enough : text.length < rounds) :
    readBasic false ⟨text.flatMap stringChar ++ '"' :: rest, offset⟩ rounds =
      .ok (text, ⟨rest, offset + (text.flatMap stringChar).length + 1⟩) := by
  induction text generalizing offset rounds with
  | nil =>
      obtain ⟨rounds, rfl⟩ := Nat.exists_eq_add_of_lt enough
      rfl
  | cons c text ih =>
      obtain ⟨rounds, rfl⟩ : ∃ more, rounds = more + 1 := ⟨rounds - 1, by omega⟩
      rw [List.flatMap_cons, List.append_assoc, readBasic_stringChar,
        ih (by rw [List.length_cons] at enough; omega), List.length_append, ← Nat.add_assoc]
      rfl

/-- Every character is spelled with at least one character, so a reader with a round for each
character of the text has enough of them. -/
theorem length_le_flatMap : text.length ≤ (text.flatMap stringChar).length := by
  induction text with
  | nil => exact Nat.zero_le _
  | cons c text ih =>
      obtain ⟨first, more, written, -⟩ := stringChar_eq_cons c
      rw [List.flatMap_cons, List.length_append, List.length_cons, written, List.length_cons]
      omega

theorem string_append :
    string text ++ rest = '"' :: (text.flatMap stringChar ++ '"' :: rest) := by
  rw [string, List.append_assoc, List.cons_append, List.singleton_append]

theorem length_string : (string text).length = 1 + ((text.flatMap stringChar).length + 1) := by
  rw [string, List.length_append, List.length_cons, List.length_singleton, Nat.add_comm 1]

/-- **A string is read as the text that it was written for.** -/
theorem readLineString_string : readLineString ⟨string text ++ rest, offset⟩ =
    .ok (text, ⟨rest, offset + (string text).length⟩) := by
  have enough : text.length < ('"' :: (text.flatMap stringChar ++ '"' :: rest)).length + 1 := by
    have short := @length_le_flatMap text
    rw [List.length_cons, List.length_append]
    omega
  have inside : (⟨'"' :: (text.flatMap stringChar ++ '"' :: rest), offset⟩ : Cursor).drop 1 =
      ⟨text.flatMap stringChar ++ '"' :: rest, offset + 1⟩ := rfl
  rw [string_append, readLineString, inside, readBasic_flatMap enough, length_string,
    Nat.add_assoc, Nat.add_assoc]

/-- No string that was written looks like the beginning of one of several lines. -/
theorem sees_string (other : stop ≠ '"') :
    (⟨string text ++ stop :: rest, offset⟩ : Cursor).sees ['"', '"', '"'] = false := by
  rw [string_append, Cursor.sees]
  cases text with
  | nil =>
      simp only [List.flatMap_nil, List.nil_append, List.isPrefixOf, beq_eq_false_iff_ne.mpr
        other.symm, Bool.false_and, Bool.and_false]
  | cons c text =>
      obtain ⟨first, more, written, different⟩ := stringChar_eq_cons c
      simp only [List.flatMap_cons, written, List.cons_append, List.isPrefixOf,
        beq_eq_false_iff_ne.mpr different.symm, Bool.false_and, Bool.and_false]

/-! ## Carriage returns -/

theorem hexDigit_ne_return : ∀ digit < 16, '\r' ≠ Text.hexDigit digit := by
  decide

/-- No number in hexadecimal digits holds a carriage return. -/
theorem return_notMem_hexDigits {n count : Nat} : '\r' ∉ Text.hexDigits n count := by
  induction count generalizing n with
  | zero => exact List.not_mem_nil
  | succ count ih =>
      rw [Text.hexDigits, List.mem_append, List.mem_singleton]
      exact not_or_intro ih (hexDigit_ne_return _ (Nat.mod_lt _ (by decide)))

/-- A carriage return is escaped, so no spelling of a character holds one. -/
theorem return_notMem_stringChar : '\r' ∉ stringChar c := by
  rw [stringChar]
  split_ifs with quote slash feed carriage back form control
  · decide
  · decide
  · decide
  · decide
  · decide
  · decide
  · rw [List.mem_append]
    exact not_or_intro (by decide) return_notMem_hexDigits
  · rw [List.mem_singleton]
    exact Ne.symm carriage

/-- A string spells its carriage returns, so joining line breaks does not change it. -/
theorem return_notMem_string : '\r' ∉ string text := by
  rw [string, List.mem_append, List.mem_cons, List.mem_flatMap, List.mem_singleton]
  rintro ((quote | ⟨c, -, spelled⟩) | quote)
  · exact absurd quote (by decide)
  · exact return_notMem_stringChar spelled
  · exact absurd quote (by decide)

end Toml

end TableSearch
