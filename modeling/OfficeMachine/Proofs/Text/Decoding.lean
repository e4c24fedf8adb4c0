/-
This file shows that only encodings are decoded. A sequence that is read is the encoding of the
character that it gives, so the bytes that decode are exactly those of texts.
-/

import Mathlib.Tactic.Common
import OfficeMachine.Proofs.Text.Encoding

namespace OfficeMachine.Text

section Leads

variable {byte bits : Nat} {ranges : List (Nat × Nat)}

/-- A lead byte of two is not so small that one byte would do. -/
theorem two_of_lead (above : 0x80 ≤ byte) (below : byte < 0xE0)
    (leads : lead byte = some (bits, ranges)) :
    0xC2 ≤ byte ∧ bits = byte - 0xC0 ∧ ranges = [(0x80, 0xBF)] := by
  by_cases tooSmall : byte < 0xC2
  · rw [lead, if_neg (by omega), if_pos tooSmall] at leads
    cases leads
  · rw [lead, if_neg (by omega), if_neg tooSmall, if_pos below] at leads
    obtain ⟨same, shape⟩ := Prod.mk.inj (Option.some.inj leads)
    exact ⟨by omega, same.symm, shape.symm⟩

/-- Behind a lead byte of three, the next byte neither makes the point so small that two bytes would
do nor leads into the surrogates. -/
theorem three_of_lead (above : 0xE0 ≤ byte) (below : byte < 0xF0)
    (leads : lead byte = some (bits, ranges)) :
    bits = byte - 0xE0 ∧ ∃ low high, ranges = [(low, high), (0x80, 0xBF)] ∧
      0x80 ≤ low ∧ high ≤ 0xBF ∧ (byte = 0xE0 → 0xA0 ≤ low) ∧ (byte = 0xED → high ≤ 0x9F) := by
  rw [lead, if_neg (by omega), if_neg (by omega), if_neg (by omega), if_pos below] at leads
  split at leads
  case isTrue zero =>
    obtain ⟨same, shape⟩ := Prod.mk.inj (Option.some.inj leads)
    exact ⟨by omega, 0xA0, 0xBF, shape.symm, by omega⟩
  split at leads
  all_goals obtain ⟨same, shape⟩ := Prod.mk.inj (Option.some.inj leads)
  case isTrue last => exact ⟨by omega, 0x80, 0x9F, shape.symm, by omega⟩
  case isFalse => exact ⟨by omega, 0x80, 0xBF, shape.symm, by omega⟩

/-- Behind a lead byte of four, the next byte neither makes the point so small that three bytes
would do nor leads beyond the last point. -/
theorem four_of_lead (above : 0xF0 ≤ byte) (leads : lead byte = some (bits, ranges)) :
    byte ≤ 0xF4 ∧ bits = byte - 0xF0 ∧
      ∃ low high, ranges = [(low, high), (0x80, 0xBF), (0x80, 0xBF)] ∧
        0x80 ≤ low ∧ high ≤ 0xBF ∧ (byte = 0xF0 → 0x90 ≤ low) ∧ (byte = 0xF4 → high ≤ 0x8F) := by
  rw [lead, if_neg (by omega), if_neg (by omega), if_neg (by omega), if_neg (by omega),
    if_neg (by omega), if_neg (by omega)] at leads
  split at leads
  case isTrue zero =>
    obtain ⟨same, shape⟩ := Prod.mk.inj (Option.some.inj leads)
    exact ⟨by omega, by omega, 0x90, 0xBF, shape.symm, by omega⟩
  split at leads
  case isTrue middle =>
    obtain ⟨same, shape⟩ := Prod.mk.inj (Option.some.inj leads)
    exact ⟨by omega, by omega, 0x80, 0xBF, shape.symm, by omega⟩
  split at leads
  case isTrue last =>
    obtain ⟨same, shape⟩ := Prod.mk.inj (Option.some.inj leads)
    exact ⟨by omega, by omega, 0x80, 0x8F, shape.symm, by omega⟩
  case isFalse => cases leads

end Leads

/-- A point that is continued through a range takes its next bits from a byte in the range. -/
theorem exists_of_continuation {point count low high result total : Nat}
    {ranges : List (Nat × Nat)} {bytes : List UInt8}
    (continued : continuation point count ((low, high) :: ranges) bytes = .ok (result, total)) :
    ∃ next rest, bytes = next :: rest ∧ low ≤ next.toNat ∧ next.toNat ≤ high ∧
      continuation (64 * point + (next.toNat - 0x80)) (count + 1) ranges rest =
        .ok (result, total) := by
  cases bytes with
  | nil => cases continued
  | cons next rest =>
      rw [continuation] at continued
      split at continued
      case isTrue inside => exact ⟨next, rest, rfl, inside.1, inside.2, continued⟩
      case isFalse => cases continued

section Sequences

variable {first : UInt8} {rest : List UInt8} {character : Char} {count : Nat}

/-- A sequence that is read has a lead byte, and the bytes behind it continue the point. -/
theorem exists_point_of_sequence (read : sequence first rest = .ok (character, count)) :
    ∃ bits ranges point, lead first.toNat = some (bits, ranges) ∧
      continuation bits 0 ranges rest = .ok (point, count) ∧ character = Char.ofNat point := by
  unfold sequence at read
  split at read
  case h_1 => cases read
  case h_2 bits ranges leads =>
    cases continued : continuation bits 0 ranges rest with
    | error failure =>
        rw [continued] at read
        cases read
    | ok result =>
        rw [continued] at read
        cases read
        exact ⟨bits, ranges, result.1, leads, continued, rfl⟩

/-- A valid point is that of its character. -/
theorem toNat_ofNat {point : Nat} (valid : point.isValidChar) :
    (Char.ofNat point).toNat = point := by
  rw [Char.ofNat, dif_pos valid]
  rfl

/-- A byte is written with its number. -/
theorem ofNat_eq {number : Nat} (byte : UInt8) (same : number = byte.toNat) :
    UInt8.ofNat number = byte := by
  rw [same, UInt8.ofNat_toNat]

theorem follower_eq {bits : Nat} (byte : UInt8) (same : bits % 64 + 128 = byte.toNat) :
    follower bits = byte :=
  ofNat_eq byte same

/-- The bytes of a sequence that is read are the encoding of its character. -/
theorem utf8EncodeChar_of_sequence (read : sequence first rest = .ok (character, count)) :
    String.utf8EncodeChar character = first :: rest.take count := by
  obtain ⟨bits, ranges, point, leads, continued, rfl⟩ := exists_point_of_sequence read
  by_cases one : first.toNat < 0x80
  · rw [lead, if_pos one] at leads
    cases leads
    cases continued
    rw [utf8EncodeChar_eq (toNat_ofNat (.inl (by omega))), if_pos (by omega), List.take_zero,
      UInt8.ofNat_toNat]
  by_cases two : first.toNat < 0xE0
  · obtain ⟨above, leading, shape⟩ := two_of_lead (by omega) two leads
    rw [leading, shape] at continued
    obtain ⟨second, rest, rfl, low, high, continued⟩ := exists_of_continuation continued
    obtain ⟨same, rfl⟩ := Prod.mk.inj (Except.ok.inj continued)
    rw [utf8EncodeChar_eq (toNat_ofNat (.inl (by omega))), if_neg (by omega), if_pos (by omega),
      ofNat_eq first (by omega), follower_eq second (by omega)]
    rfl
  by_cases three : first.toNat < 0xF0
  · obtain ⟨leading, low, high, shape, inside⟩ := three_of_lead (by omega) three leads
    rw [leading, shape] at continued
    obtain ⟨second, rest, rfl, _, _, continued⟩ := exists_of_continuation continued
    obtain ⟨third, rest, rfl, _, _, continued⟩ := exists_of_continuation continued
    obtain ⟨same, rfl⟩ := Prod.mk.inj (Except.ok.inj continued)
    have valid : point.isValidChar := by
      unfold Nat.isValidChar
      omega
    rw [utf8EncodeChar_eq (toNat_ofNat valid), if_neg (by omega), if_neg (by omega),
      if_pos (by omega), ofNat_eq first (by omega),
      follower_eq second (by omega), follower_eq third (by omega)]
    rfl
  · obtain ⟨atMost, leading, low, high, shape, inside⟩ := four_of_lead (by omega) leads
    rw [leading, shape] at continued
    obtain ⟨second, rest, rfl, _, _, continued⟩ := exists_of_continuation continued
    obtain ⟨third, rest, rfl, _, _, continued⟩ := exists_of_continuation continued
    obtain ⟨fourth, rest, rfl, _, _, continued⟩ := exists_of_continuation continued
    obtain ⟨same, rfl⟩ := Prod.mk.inj (Except.ok.inj continued)
    have valid : point.isValidChar := .inr (by omega)
    rw [utf8EncodeChar_eq (toNat_ofNat valid), if_neg (by omega), if_neg (by omega),
      if_neg (by omega), ofNat_eq first (by omega),
      follower_eq second (by omega), follower_eq third (by omega),
      follower_eq fourth (by omega)]
    rfl

end Sequences

/-- What is decoded without a fault is the encoding of the characters that are read. -/
theorem exists_of_decodeFrom {position : Nat} {bytes : List UInt8} {read all : Array Char}
    (decoded : decodeFrom position bytes read = .ok all) :
    ∃ text : List Char, all.toList = read.toList ++ text ∧
      bytes = text.flatMap String.utf8EncodeChar := by
  fun_induction decodeFrom position bytes read with
  | case1 position read =>
      cases decoded
      exact ⟨[], by simp, rfl⟩
  | case2 => cases decoded
  | case3 position read first rest character count sequenced inductionHypothesis =>
      obtain ⟨text, whole, encoded⟩ := inductionHypothesis decoded
      refine ⟨character :: text, by simpa using whole, ?_⟩
      rw [List.flatMap_cons, utf8EncodeChar_of_sequence sequenced, List.cons_append, ← encoded,
        List.take_append_drop]

/-- Bytes decode to a text exactly if they are its encoding. -/
theorem decode_eq_ok_iff {bytes : List UInt8} {text : List Char} :
    decode bytes = .ok text ↔ bytes = (String.ofList text).toUTF8.toList := by
  constructor
  · intro decoded
    rw [decode] at decoded
    cases read : decodeFrom 0 bytes #[] with
    | error fault =>
        rw [read] at decoded
        cases decoded
    | ok all =>
        rw [read] at decoded
        obtain ⟨characters, whole, encoded⟩ := exists_of_decodeFrom read
        obtain rfl : all.toList = text := Except.ok.inj decoded
        rw [toList_toUTF8, String.toList_ofList, whole, encoded]
        rfl
  · rintro rfl
    rw [decode_toUTF8, String.toList_ofList]

/-- Bytes that are no encoding of any text have a fault. -/
theorem exists_fault_iff {bytes : List UInt8} :
    (∃ fault, decode bytes = .error fault) ↔ ∀ text : String, bytes ≠ text.toUTF8.toList := by
  constructor
  · rintro ⟨fault, failed⟩ text rfl
    rw [decode_toUTF8] at failed
    cases failed
  · intro noText
    cases decoded : decode bytes with
    | error fault => exact ⟨fault, rfl⟩
    | ok text => exact absurd (decode_eq_ok_iff.mp decoded) (noText _)

end OfficeMachine.Text
