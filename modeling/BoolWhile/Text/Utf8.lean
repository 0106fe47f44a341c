import BoolWhile.Text.Hex

/-!
# Texts from bytes

Files and the standard input hold UTF-8. Bytes that are no UTF-8 are refused as a whole, with the
place and the kind of the first fault. A fault covers the bytes that began a character well, or a
single byte that begins none.
-/

namespace BoolWhile

namespace Text

namespace Utf8

/-- What is wrong at the first fault. -/
inductive Reason
  | invalidStart
  | invalidContinuation
  | unexpectedEnd
  deriving DecidableEq, Repr

/-- The words for a reason. -/
def Reason.message : Reason → String
  | .invalidStart => "invalid start byte"
  | .invalidContinuation => "invalid continuation byte"
  | .unexpectedEnd => "unexpected end of data"

/-- The first place where bytes are no UTF-8. -/
structure Fault where
  /-- The offset of the first byte that is part of the fault. -/
  offset : Nat
  /-- The byte at that offset. -/
  byte : UInt8
  /-- How many bytes are part of the fault. -/
  width : Nat
  reason : Reason
  deriving DecidableEq, Repr

/-- The bytes allowed after a first byte, in order and each as a range; `none` for a byte that
begins no character. The narrower ranges keep out overlong forms, surrogates and code points above
the last one. -/
def continuations (first : UInt8) : Option (List (UInt8 × UInt8)) :=
  if first < 0x80 then some []
  else if first < 0xC2 then none
  else if first < 0xE0 then some [(0x80, 0xBF)]
  else if first = 0xE0 then some [(0xA0, 0xBF), (0x80, 0xBF)]
  else if first = 0xED then some [(0x80, 0x9F), (0x80, 0xBF)]
  else if first < 0xF0 then some [(0x80, 0xBF), (0x80, 0xBF)]
  else if first = 0xF0 then some [(0x90, 0xBF), (0x80, 0xBF), (0x80, 0xBF)]
  else if first < 0xF4 then some [(0x80, 0xBF), (0x80, 0xBF), (0x80, 0xBF)]
  else if first = 0xF4 then some [(0x80, 0x8F), (0x80, 0xBF), (0x80, 0xBF)]
  else none

/-- Reads the bytes that have to follow the first `count` bytes of a character: the number of
bytes in the whole character, or how many were right and what stopped it. -/
def readContinuations (count : Nat) :
    List (UInt8 × UInt8) → List UInt8 → Except (Nat × Reason) Nat
  | [], _ => .ok count
  | _ :: _, [] => .error (count, .unexpectedEnd)
  | (low, high) :: ranges, b :: bytes =>
    if low ≤ b ∧ b ≤ high then readContinuations (count + 1) ranges bytes
    else .error (count, .invalidContinuation)

/-- The first fault at or after an offset; `skip` bytes there belong to a character that is read
already. Bytes without a fault are at fault where they end. -/
def faultFrom (offset skip : Nat) : List UInt8 → Fault
  | [] => ⟨offset, 0, 0, .unexpectedEnd⟩
  | b :: bytes =>
    match skip with
    | skip + 1 => faultFrom (offset + 1) skip bytes
    | 0 =>
      match continuations b with
      | none => ⟨offset, b, 1, .invalidStart⟩
      | some ranges =>
        match readContinuations 1 ranges bytes with
        | .ok width => faultFrom (offset + 1) (width - 1) bytes
        | .error (width, reason) => ⟨offset, b, width, reason⟩

/-- The text that bytes hold, or their first fault. -/
def decode (bytes : ByteArray) : Except Fault String :=
  match String.fromUTF8? bytes with
  | some text => .ok text
  | none => .error (faultFrom 0 0 bytes.toList)

/-- The bytes of a text are read back as the text. -/
@[simp] theorem decode_toUTF8 (text : String) : decode text.toUTF8 = .ok text := by
  have h : String.fromUTF8? text.toUTF8 = some text := dif_pos text.isValidUTF8
  rw [decode, h]

/-- The message of a fault: a single byte is shown, several are given by the offsets of the first
and the last. -/
def Fault.message (fault : Fault) : String :=
  let place :=
    if fault.width = 1 then
      "byte 0x" ++ String.ofList (hexDigits 2 fault.byte.toNat) ++ s!" in position {fault.offset}"
    else s!"bytes in position {fault.offset}-{fault.offset + fault.width - 1}"
  s!"'utf-8' codec can't decode {place}: {fault.reason.message}"

end Utf8

end Text

end BoolWhile
