/-
This file decodes texts that were encoded. The bytes of a text give the text back, because each lead
byte allows exactly the bytes that the encoding puts behind it.
-/

import OfficeMachine.Text.Encoding

namespace OfficeMachine.Text

/-- A byte behind the lead byte carries the last six bits of a number. -/
def follower (bits : Nat) : UInt8 := UInt8.ofNat (bits % 64 + 128)

theorem toNat_follower (bits : Nat) : (follower bits).toNat = bits % 64 + 128 := by
  simp only [follower, UInt8.toNat_ofNat']
  omega

/-- A follower in the range adds its bits to the point. -/
theorem continuation_follower {low high bits : Nat} (inside : low ≤ bits % 64 + 128)
    (insideToo : bits % 64 + 128 ≤ high) (point count : Nat) (ranges : List (Nat × Nat))
    (rest : List UInt8) :
    continuation point count ((low, high) :: ranges) (follower bits :: rest) =
      continuation (64 * point + bits % 64) (count + 1) ranges rest := by
  rw [continuation, toNat_follower, if_pos ⟨inside, insideToo⟩, Nat.add_sub_cancel]

theorem continuation_any (bits point count : Nat) (ranges : List (Nat × Nat))
    (rest : List UInt8) :
    continuation point count ((0x80, 0xBF) :: ranges) (follower bits :: rest) =
      continuation (64 * point + bits % 64) (count + 1) ranges rest :=
  continuation_follower (by omega) (by omega) point count ranges rest

theorem lead_of_small {point : Nat} (small : point ≤ 0x7F) : lead point = some (point, []) := by
  rw [lead, if_pos (by omega)]

theorem lead_of_two {point : Nat} (above : 0x7F < point) (below : point ≤ 0x7FF) :
    lead (point / 64 + 192) = some (point / 64, [(0x80, 0xBF)]) := by
  rw [lead, if_neg (by omega), if_neg (by omega), if_pos (by omega), Nat.add_sub_cancel]

/-- The lead byte of three allows the next six bits of the point. -/
theorem lead_of_three {point : Nat} (above : 0x7FF < point) (below : point ≤ 0xFFFF)
    (valid : point < 0xD800 ∨ 0xDFFF < point) :
    ∃ low high, lead (point / 4096 + 224) = some (point / 4096, [(low, high), (0x80, 0xBF)]) ∧
      low ≤ point / 64 % 64 + 128 ∧ point / 64 % 64 + 128 ≤ high := by
  by_cases zero : point / 4096 = 0
  · refine ⟨0xA0, 0xBF, ?_, by omega, by omega⟩
    rw [zero]
    rfl
  by_cases last : point / 4096 = 0xD
  · refine ⟨0x80, 0x9F, ?_, by omega, by omega⟩
    rw [last]
    rfl
  · refine ⟨0x80, 0xBF, ?_, by omega, by omega⟩
    rw [lead, if_neg (by omega), if_neg (by omega), if_neg (by omega), if_neg (by omega),
      if_neg (by omega), if_pos (by omega), Nat.add_sub_cancel]

/-- The lead byte of four allows the next six bits of the point. -/
theorem lead_of_four {point : Nat} (above : 0xFFFF < point) (below : point ≤ 0x10FFFF) :
    ∃ low high, lead (point / 262144 + 240) =
        some (point / 262144, [(low, high), (0x80, 0xBF), (0x80, 0xBF)]) ∧
      low ≤ point / 4096 % 64 + 128 ∧ point / 4096 % 64 + 128 ≤ high := by
  by_cases zero : point / 262144 = 0
  · refine ⟨0x90, 0xBF, ?_, by omega, by omega⟩
    rw [zero]
    rfl
  by_cases last : point / 262144 = 4
  · refine ⟨0x80, 0x8F, ?_, by omega, by omega⟩
    rw [last]
    rfl
  · refine ⟨0x80, 0xBF, ?_, by omega, by omega⟩
    rw [lead, if_neg (by omega), if_neg (by omega), if_neg (by omega), if_neg (by omega),
      if_neg (by omega), if_neg (by omega), if_neg (by omega), if_pos (by omega),
      Nat.add_sub_cancel]

/-- A lead byte with its followers is read as one sequence. -/
theorem sequence_of_lead {byte bits point count : Nat} {ranges : List (Nat × Nat)}
    {rest : List UInt8} (isByte : byte < 256) (isLead : lead byte = some (bits, ranges))
    (continued : continuation bits 0 ranges rest = .ok (point, count)) :
    sequence (UInt8.ofNat byte) rest = .ok (Char.ofNat point, count) := by
  have number : (UInt8.ofNat byte).toNat = byte := by
    simp only [UInt8.toNat_ofNat']
    omega
  simp only [sequence, number, isLead, continued]
  rfl

/-- The size of its point decides how many bytes a character has. -/
theorem utf8EncodeChar_eq {character : Char} {point : Nat} (same : character.toNat = point) :
    String.utf8EncodeChar character =
      if point ≤ 0x7F then [UInt8.ofNat point]
      else if point ≤ 0x7FF then [UInt8.ofNat (point / 64 % 32 + 192), follower point]
      else if point ≤ 0xFFFF then
        [UInt8.ofNat (point / 4096 % 16 + 224), follower (point / 64), follower point]
      else [UInt8.ofNat (point / 262144 % 8 + 240), follower (point / 4096), follower (point / 64),
        follower point] := by
  rw [← same]
  rfl

/-- The bytes of a character are read as one sequence. -/
theorem sequence_utf8EncodeChar (character : Char) (rest : List UInt8) :
    ∃ first others, String.utf8EncodeChar character = first :: others ∧
      sequence first (others ++ rest) = .ok (character, others.length) := by
  obtain ⟨point, same⟩ : ∃ point, character.toNat = point := ⟨_, rfl⟩
  have back : Char.ofNat point = character := by rw [← same, Char.ofNat_toNat]
  have valid : point < 0xD800 ∨ 0xDFFF < point ∧ point < 0x110000 := same ▸ character.valid
  rw [utf8EncodeChar_eq same, ← back]
  by_cases one : point ≤ 0x7F
  · rw [if_pos one]
    exact ⟨_, _, rfl, sequence_of_lead (by omega) (lead_of_small one) rfl⟩
  by_cases two : point ≤ 0x7FF
  · have leading : point / 64 % 32 = point / 64 := by omega
    have whole : 64 * (point / 64) + point % 64 = point := by omega
    rw [if_neg one, if_pos two, leading]
    refine ⟨_, _, rfl, sequence_of_lead (by omega) (lead_of_two (by omega) two) ?_⟩
    simp only [List.cons_append, List.nil_append, continuation_any, whole]
    rfl
  by_cases three : point ≤ 0xFFFF
  · have leading : point / 4096 % 16 = point / 4096 := by omega
    have whole : 64 * (64 * (point / 4096) + point / 64 % 64) + point % 64 = point := by omega
    obtain ⟨low, high, isLead, inside, insideToo⟩ :=
      lead_of_three (by omega) three (by omega)
    rw [if_neg one, if_neg two, if_pos three, leading]
    refine ⟨_, _, rfl, sequence_of_lead (by omega) isLead ?_⟩
    simp only [List.cons_append, List.nil_append, continuation_follower inside insideToo,
      continuation_any, whole]
    rfl
  · have leading : point / 262144 % 8 = point / 262144 := by omega
    have whole : 64 * (64 * (64 * (point / 262144) + point / 4096 % 64) + point / 64 % 64) +
        point % 64 = point := by omega
    obtain ⟨low, high, isLead, inside, insideToo⟩ :=
      lead_of_four (by omega : 0xFFFF < point) (by omega)
    rw [if_neg one, if_neg two, if_neg three, leading]
    refine ⟨_, _, rfl, sequence_of_lead (by omega) isLead ?_⟩
    simp only [List.cons_append, List.nil_append, continuation_follower inside insideToo,
      continuation_any, whole]
    rfl

theorem decodeFrom_utf8Encode (text : List Char) (position : Nat) (read : Array Char) :
    decodeFrom position (text.flatMap String.utf8EncodeChar) read = .ok (read ++ text) := by
  induction text generalizing position read with
  | nil => simp [decodeFrom]
  | cons character rest inductionHypothesis =>
      obtain ⟨first, others, bytes, read⟩ :=
        sequence_utf8EncodeChar character (rest.flatMap String.utf8EncodeChar)
      rw [List.flatMap_cons, bytes, List.cons_append, decodeFrom, read]
      simp only [List.drop_left, inductionHypothesis]
      simp

/-- The bytes of an array are listed from a place on. -/
theorem toList_loop (bytes : ByteArray) (position : Nat) (before : List UInt8) :
    ByteArray.toList.loop bytes position before =
      before.reverse ++ bytes.data.toList.drop position := by
  fun_induction ByteArray.toList.loop bytes position before with
  | case1 position before inside inductionHypothesis =>
      have here : position < bytes.data.toList.length := inside
      have next : bytes.get! position = bytes.data.toList[position] := getElem!_pos bytes.data _ here
      rw [inductionHypothesis, List.drop_eq_getElem_cons here, next, List.reverse_cons,
        List.append_assoc, List.singleton_append]
  | case2 position before outside =>
      have behind : bytes.data.toList.length ≤ position := Nat.le_of_not_lt outside
      rw [List.drop_eq_nil_of_le behind, List.append_nil]

/-- The encoding of a text is that of its characters in order. -/
theorem toList_toUTF8 (text : String) :
    text.toUTF8.toList = text.toList.flatMap String.utf8EncodeChar := by
  have encoded : text.toUTF8 = text.toList.utf8Encode := by
    rw [String.toUTF8_eq_toByteArray, ← String.toByteArray_ofList, String.ofList_toList]
  rw [encoded, ByteArray.toList, toList_loop, List.reverse_nil, List.nil_append, List.drop_zero,
    List.utf8Encode, List.toList_data_toByteArray]

/-- The encoding of a text decodes to the text. -/
theorem decode_toUTF8 (text : String) : decode text.toUTF8.toList = .ok text.toList := by
  rw [toList_toUTF8, decode, decodeFrom_utf8Encode]
  simp [Except.map]

end OfficeMachine.Text
