/-
This file decodes UTF-8 and says where a byte sequence leaves the encoding. A fault covers the
lead byte and the bytes after it that could still continue it.
-/

import OfficeMachine.Text.Quoted

namespace OfficeMachine.Text

inductive EncodingFault.Reason where
  | invalidStart
  | invalidContinuation
  | unexpectedEnd
  deriving DecidableEq

/-- The fault covers `length` bytes from `position` on, and `lead` is the first of them. -/
structure EncodingFault where
  position : Nat
  length : Nat
  lead : UInt8
  reason : EncodingFault.Reason
  deriving DecidableEq

def EncodingFault.Reason.text : EncodingFault.Reason → String
  | .invalidStart => "invalid start byte"
  | .invalidContinuation => "invalid continuation byte"
  | .unexpectedEnd => "unexpected end of data"

def EncodingFault.message (fault : EncodingFault) : String :=
  let extent :=
    if fault.length = 1 then
      s!"byte 0x" ++ String.ofList (hexadecimal 2 fault.lead.toNat) ++
        s!" in position {fault.position}"
    else s!"bytes in position {fault.position}-{fault.position + fault.length - 1}"
  "'utf-8' codec can't decode " ++ extent ++ ": " ++ fault.reason.text

/-- The lead byte gives the leading bits of the point and the range of each byte after it. -/
def lead (byte : Nat) : Option (Nat × List (Nat × Nat)) :=
  let any := (0x80, 0xBF)
  if byte < 0x80 then some (byte, [])
  else if byte < 0xC2 then none
  else if byte < 0xE0 then some (byte - 0xC0, [any])
  else if byte = 0xE0 then some (0, [(0xA0, 0xBF), any])
  else if byte = 0xED then some (0xD, [(0x80, 0x9F), any])
  else if byte < 0xF0 then some (byte - 0xE0, [any, any])
  else if byte = 0xF0 then some (0, [(0x90, 0xBF), any, any])
  else if byte < 0xF4 then some (byte - 0xF0, [any, any, any])
  else if byte = 0xF4 then some (4, [(0x80, 0x8F), any, any])
  else none

/-- The bytes continue the point while each lies in its range. A failure counts the bytes that
did. -/
def continuation (point count : Nat) :
    List (Nat × Nat) → List UInt8 → Except (EncodingFault.Reason × Nat) (Nat × Nat)
  | [], _ => .ok (point, count)
  | _ :: _, [] => .error (.unexpectedEnd, count)
  | (low, high) :: ranges, byte :: bytes =>
      if low ≤ byte.toNat ∧ byte.toNat ≤ high then
        continuation (64 * point + (byte.toNat - 0x80)) (count + 1) ranges bytes
      else .error (.invalidContinuation, count)

/-- The sequence gives its character and the number of bytes after the lead byte. -/
def sequence (first : UInt8) (rest : List UInt8) :
    Except (EncodingFault.Reason × Nat) (Char × Nat) :=
  match lead first.toNat with
  | none => .error (.invalidStart, 0)
  | some (bits, ranges) =>
      (continuation bits 0 ranges rest).map fun (point, count) => (Char.ofNat point, count)

/-- Decoding reads one sequence after another and stops at the first fault. -/
def decodeFrom (position : Nat) (bytes : List UInt8) (read : Array Char) :
    Except EncodingFault (Array Char) :=
  match bytes with
  | [] => .ok read
  | first :: rest =>
      match sequence first rest with
      | .error (reason, count) => .error ⟨position, count + 1, first, reason⟩
      | .ok (character, count) =>
          decodeFrom (position + count + 1) (rest.drop count) (read.push character)
termination_by bytes.length
decreasing_by simp only [List.length_drop, List.length_cons]; omega

def decode (bytes : List UInt8) : Except EncodingFault (List Char) :=
  (decodeFrom 0 bytes #[]).map Array.toList

end OfficeMachine.Text
