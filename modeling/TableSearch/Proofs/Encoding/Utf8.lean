import Mathlib.Data.List.TakeWhile
import TableSearch.Encoding.Basic

/-! # UTF-8

What is encoded in UTF-8 is decoded as it was (`TableSearch.Encoding.decodeInPieces_encode`).

The bytes of a character are a leading byte with the bits above the last six, twelve or eighteen, and
a continuation byte for each six bits below.  The bounds of the first continuation byte leave out the
codes that have a shorter form and those of surrogates, none of which is the code of a character.
-/

namespace TableSearch

/-! ## Bytes of a text -/

/-- The bytes of an array are listed in order. -/
theorem toList_loop_eq (bytes : ByteArray) (place : Nat) (seen : List UInt8) :
    ByteArray.toList.loop bytes place seen = seen.reverse ++ bytes.data.toList.drop place := by
  induction remaining : bytes.size - place generalizing place seen with
  | zero =>
      have beyond : ¬place < bytes.size := by omega
      rw [ByteArray.toList.loop, if_neg beyond, List.drop_eq_nil_of_le, List.append_nil]
      exact Nat.le_of_not_lt beyond
  | succ remaining ih =>
      have inside : place < bytes.size := by omega
      have known : place < bytes.data.toList.length := inside
      rw [ByteArray.toList.loop, if_pos inside, ih (place + 1) _ (by omega), List.reverse_cons,
        List.append_assoc, List.singleton_append, List.drop_eq_getElem_cons known]
      congr 2
      exact getElem!_pos bytes.data place inside

/-- A text is encoded character by character. -/
theorem Text.encode_eq_flatMap (text : Text) : text.encode = text.flatMap String.utf8EncodeChar := by
  rw [encode, String.toUTF8_eq_toByteArray, String.toByteArray_ofList, List.utf8Encode,
    ByteArray.toList, toList_loop_eq, List.drop_zero, List.toList_data_toByteArray]
  rfl

namespace Encoding

/-! ## Bytes of a character -/

variable {offset rounds count : Nat} {lead low high first : UInt8} {rest tail more : List UInt8}
  {c : Char} {text : Text}

/-- The continuation bytes of a character are taken, if the first of them lies within its bounds. -/
theorem goodTail_append (above : low ≤ first) (below : first ≤ high)
    (continues : ∀ byte ∈ more, isContinuation byte = true) :
    goodTail (more.length + 1) low high (first :: (more ++ rest)) = first :: more := by
  rw [goodTail, List.take_succ_cons, List.take_left]
  simp only [above, below, decide_true, Bool.and_self, ↓reduceIte]
  rw [List.takeWhile_eq_self_iff.mpr continues]

/-- A leading byte and its continuation bytes are decoded as the character they make. -/
theorem decodeUtf8_of_tail (first : UInt8) (more : List UInt8) (beyond : ¬lead < 0x80)
    (known : continuation? lead = some (count, low, high)) (size : more.length + 1 = count)
    (above : low ≤ first) (below : first ≤ high)
    (continues : ∀ byte ∈ more, isContinuation byte = true) :
    decodeUtf8 offset (lead :: first :: (more ++ rest)) (rounds + 1) =
      (decodeUtf8 (offset + 1 + count) rest rounds).map (assemble lead (first :: more) :: ·) := by
  subst size
  rw [decodeUtf8]
  simp only [beyond, ↓reduceIte, known, goodTail_append above below continues, List.length_cons,
    List.drop_succ_cons, List.drop_left]
  rfl

theorem lead_of_two : ∀ high < 32, 2 ≤ high →
    ¬UInt8.ofNat (high + 192) < 0x80 ∧
      continuation? (UInt8.ofNat (high + 192)) = some (1, 0x80, 0xBF) := by
  decide

theorem lead_of_three : ∀ high < 16,
    ¬UInt8.ofNat (high + 224) < 0x80 ∧ continuation? (UInt8.ofNat (high + 224)) =
      some (2, if high = 0 then 0xA0 else 0x80, if high = 13 then 0x9F else 0xBF) := by
  decide

theorem lead_of_four : ∀ high < 5,
    ¬UInt8.ofNat (high + 240) < 0x80 ∧ continuation? (UInt8.ofNat (high + 240)) =
      some (3, if high = 0 then 0x90 else 0x80, if high = 4 then 0x8F else 0xBF) := by
  decide

theorem toNat_byte {n : Nat} (small : n < 256) : (UInt8.ofNat n).toNat = n := by
  rw [UInt8.toNat_ofNat', Nat.mod_eq_of_lt small]

theorem isContinuation_byte : ∀ bits < 64, isContinuation (UInt8.ofNat (bits + 128)) = true := by
  decide

theorem byte_above : ∀ bits < 64, 0x80 ≤ UInt8.ofNat (bits + 128) ∧
    (16 ≤ bits → 0x90 ≤ UInt8.ofNat (bits + 128)) ∧
    (32 ≤ bits → 0xA0 ≤ UInt8.ofNat (bits + 128)) := by
  decide

theorem byte_below : ∀ bits < 64, UInt8.ofNat (bits + 128) ≤ 0xBF ∧
    (bits < 32 → UInt8.ofNat (bits + 128) ≤ 0x9F) ∧
    (bits < 16 → UInt8.ofNat (bits + 128) ≤ 0x8F) := by
  decide

section Bits

variable {bits second third fourth : Nat}

/-- Two bytes are put together to the code that they were split from. -/
theorem assemble_two (leading : bits < 32) (follows : second < 64) :
    assemble (UInt8.ofNat (bits + 192)) [UInt8.ofNat (second + 128)] =
      Char.ofNat (64 * bits + second) := by
  simp only [assemble, List.length_singleton, ↓reduceIte, List.foldl_cons, List.foldl_nil,
    toNat_byte (show bits + 192 < 256 by omega), toNat_byte (show second + 128 < 256 by omega)]
  congr 1
  omega

/-- Three bytes are put together to the code that they were split from. -/
theorem assemble_three (leading : bits < 16) (follows : second < 64) (follows' : third < 64) :
    assemble (UInt8.ofNat (bits + 224))
        [UInt8.ofNat (second + 128), UInt8.ofNat (third + 128)] =
      Char.ofNat (4096 * bits + 64 * second + third) := by
  simp only [assemble, List.length_cons, List.length_nil, List.foldl_cons, List.foldl_nil,
    toNat_byte (show bits + 224 < 256 by omega), toNat_byte (show second + 128 < 256 by omega),
    toNat_byte (show third + 128 < 256 by omega), Nat.reduceAdd, Nat.reduceEqDiff, ↓reduceIte]
  congr 1
  omega

/-- Four bytes are put together to the code that they were split from. -/
theorem assemble_four (leading : bits < 8) (follows : second < 64) (follows' : third < 64)
    (follows'' : fourth < 64) :
    assemble (UInt8.ofNat (bits + 240))
        [UInt8.ofNat (second + 128), UInt8.ofNat (third + 128), UInt8.ofNat (fourth + 128)] =
      Char.ofNat (262144 * bits + 4096 * second + 64 * third + fourth) := by
  simp only [assemble, List.length_cons, List.length_nil, List.foldl_cons, List.foldl_nil,
    toNat_byte (show bits + 240 < 256 by omega), toNat_byte (show second + 128 < 256 by omega),
    toNat_byte (show third + 128 < 256 by omega), toNat_byte (show fourth + 128 < 256 by omega),
    Nat.reduceAdd, Nat.reduceEqDiff, ↓reduceIte]
  congr 1
  omega

end Bits

theorem ofNat_of_code {code : Nat} (same : code = c.toNat) : Char.ofNat code = c := by
  rw [same, Char.ofNat_toNat]

/-- A character up to the code 0x7F is decoded from its byte. -/
theorem decodeUtf8_one (small : c.toNat ≤ 0x7F) :
    decodeUtf8 offset (UInt8.ofNat c.toNat :: rest) (rounds + 1) =
      (decodeUtf8 (offset + 1) rest rounds).map (c :: ·) := by
  have self : (UInt8.ofNat c.toNat).toNat = c.toNat := toNat_byte (by omega)
  have ascii : UInt8.ofNat c.toNat < 0x80 := by
    rw [UInt8.lt_iff_toNat_lt, self]
    exact Nat.lt_succ_of_le small
  rw [decodeUtf8]
  simp only [ascii, ↓reduceIte, self, Char.ofNat_toNat]
  rfl

/-- A character up to the code 0x7FF is decoded from its two bytes. -/
theorem decodeUtf8_two (large : 0x7F < c.toNat) (small : c.toNat ≤ 0x7FF) :
    decodeUtf8 offset (UInt8.ofNat (c.toNat / 64 % 32 + 192) ::
        UInt8.ofNat (c.toNat % 64 + 128) :: rest) (rounds + 1) =
      (decodeUtf8 (offset + 2) rest rounds).map (c :: ·) := by
  have second : c.toNat % 64 < 64 := Nat.mod_lt _ (by decide)
  obtain ⟨other, known⟩ := lead_of_two (c.toNat / 64 % 32) (by omega) (by omega)
  have same := assemble_two (show c.toNat / 64 % 32 < 32 by omega) second
  rw [ofNat_of_code (show _ = c.toNat by omega)] at same
  refine (decodeUtf8_of_tail (UInt8.ofNat (c.toNat % 64 + 128)) [] other known rfl
    (byte_above _ second).1 (byte_below _ second).1 ?_).trans ?_
  · intro byte absent
    cases absent
  · rw [same]

/-- A character up to the code 0xFFFF is decoded from its three bytes: it is no surrogate. -/
theorem decodeUtf8_three (large : 0x7FF < c.toNat) (small : c.toNat ≤ 0xFFFF) :
    decodeUtf8 offset (UInt8.ofNat (c.toNat / 4096 % 16 + 224) ::
        UInt8.ofNat (c.toNat / 64 % 64 + 128) :: UInt8.ofNat (c.toNat % 64 + 128) :: rest)
        (rounds + 1) =
      (decodeUtf8 (offset + 3) rest rounds).map (c :: ·) := by
  have valid : c.toNat < 0xD800 ∨ 0xDFFF < c.toNat ∧ c.toNat < 0x110000 := c.valid
  have second : c.toNat / 64 % 64 < 64 := Nat.mod_lt _ (by decide)
  have third : c.toNat % 64 < 64 := Nat.mod_lt _ (by decide)
  obtain ⟨other, known⟩ := lead_of_three (c.toNat / 4096 % 16) (by omega)
  have same := assemble_three (show c.toNat / 4096 % 16 < 16 by omega) second third
  rw [ofNat_of_code (show _ = c.toNat by omega)] at same
  refine (decodeUtf8_of_tail (UInt8.ofNat (c.toNat / 64 % 64 + 128))
    [UInt8.ofNat (c.toNat % 64 + 128)] other known rfl ?_ ?_ ?_).trans ?_
  · split
    · exact (byte_above _ second).2.2 (by omega)
    · exact (byte_above _ second).1
  · split
    · exact (byte_below _ second).2.1 (by omega)
    · exact (byte_below _ second).1
  · rw [List.forall_mem_singleton]
    exact isContinuation_byte _ third
  · rw [same]

/-- Any other character is decoded from its four bytes. -/
theorem decodeUtf8_four (large : 0xFFFF < c.toNat) :
    decodeUtf8 offset (UInt8.ofNat (c.toNat / 262144 % 8 + 240) ::
        UInt8.ofNat (c.toNat / 4096 % 64 + 128) :: UInt8.ofNat (c.toNat / 64 % 64 + 128) ::
        UInt8.ofNat (c.toNat % 64 + 128) :: rest) (rounds + 1) =
      (decodeUtf8 (offset + 4) rest rounds).map (c :: ·) := by
  have valid : c.toNat < 0xD800 ∨ 0xDFFF < c.toNat ∧ c.toNat < 0x110000 := c.valid
  have second : c.toNat / 4096 % 64 < 64 := Nat.mod_lt _ (by decide)
  have third : c.toNat / 64 % 64 < 64 := Nat.mod_lt _ (by decide)
  have fourth : c.toNat % 64 < 64 := Nat.mod_lt _ (by decide)
  obtain ⟨other, known⟩ := lead_of_four (c.toNat / 262144 % 8) (by omega)
  have same := assemble_four (show c.toNat / 262144 % 8 < 8 by omega) second third fourth
  rw [ofNat_of_code (show _ = c.toNat by omega)] at same
  refine (decodeUtf8_of_tail (UInt8.ofNat (c.toNat / 4096 % 64 + 128))
    [UInt8.ofNat (c.toNat / 64 % 64 + 128), UInt8.ofNat (c.toNat % 64 + 128)] other known rfl
    ?_ ?_ ?_).trans ?_
  · split
    · exact (byte_above _ second).2.1 (by omega)
    · exact (byte_above _ second).1
  · split
    · exact (byte_below _ second).2.2 (by omega)
    · exact (byte_below _ second).1
  · rw [List.forall_mem_cons, List.forall_mem_singleton]
    exact ⟨isContinuation_byte _ third, isContinuation_byte _ fourth⟩
  · rw [same]

/-- The bytes of a character are decoded as the character. -/
theorem decodeUtf8_char :
    decodeUtf8 offset (String.utf8EncodeChar c ++ rest) (rounds + 1) =
      (decodeUtf8 (offset + (String.utf8EncodeChar c).length) rest rounds).map (c :: ·) := by
  have code : c.val.toNat = c.toNat := rfl
  simp only [String.utf8EncodeChar, code]
  by_cases one : c.toNat ≤ 0x7F
  · rw [if_pos one]
    exact decodeUtf8_one one
  rw [if_neg one]
  by_cases two : c.toNat ≤ 0x7FF
  · rw [if_pos two]
    exact decodeUtf8_two (Nat.lt_of_not_le one) two
  rw [if_neg two]
  by_cases three : c.toNat ≤ 0xFFFF
  · rw [if_pos three]
    exact decodeUtf8_three (Nat.lt_of_not_le two) three
  · rw [if_neg three]
    exact decodeUtf8_four (Nat.lt_of_not_le three)

/-! ## Texts -/

/-- Every character has at least one byte, so a decoder with a round for each byte has enough of
them. -/
theorem length_le_encoded : text.length ≤ (text.flatMap String.utf8EncodeChar).length := by
  induction text with
  | nil => exact Nat.le_refl 0
  | cons c text ih =>
      have filled := c.utf8Size_pos
      rw [List.flatMap_cons, List.length_append, String.length_utf8EncodeChar, List.length_cons]
      omega

/-- The bytes of a text are decoded to the text, if there is a round for each character. -/
theorem decodeUtf8_encoded (enough : text.length ≤ rounds) :
    decodeUtf8 offset (text.flatMap String.utf8EncodeChar) rounds = .ok text := by
  induction text generalizing offset rounds with
  | nil => cases rounds <;> rfl
  | cons c text ih =>
      cases rounds with
      | zero => cases enough
      | succ rounds =>
          rw [List.flatMap_cons, decodeUtf8_char, ih (Nat.le_of_succ_le_succ enough)]
          rfl

theorem decode_encode : utf8.decode text.encode = .ok text := by
  rw [Text.encode_eq_flatMap]
  exact decodeUtf8_encoded length_le_encoded

/-- **Encoding.** A text encoded in UTF-8 is read as it was. -/
theorem decodeInPieces_encode : utf8.decodeInPieces text.encode = .ok text := by
  change (utf8.decode text.encode).mapError DecodeError.inPieces = _
  rw [decode_encode]
  rfl

end Encoding

end TableSearch
