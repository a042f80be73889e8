import Intake.Text.Basic

/-!
# UTF-8

Decoding of byte sequences, and encoding of texts. A sequence that is not UTF-8 is refused at its first
fault, with the stretch of bytes that cannot be a character and the reason why. A text that is not whole is
refused at its first stretch of halves.
-/

namespace Intake

namespace Utf8

/-- Why bytes are not a character. -/
inductive Reason where
  /-- The first byte starts no character. -/
  | invalidStart
  /-- A byte that has to continue the character does not. -/
  | invalidContinuation
  /-- The text ends inside the character. -/
  | unexpectedEnd
deriving DecidableEq

/-- A fault in a byte sequence. -/
structure Flaw where
  reason : Reason
  /-- The bytes, for a stretch of one. -/
  first : UInt8
  /-- The position of the first byte of the stretch. -/
  start : Nat
  /-- The position after its last byte. -/
  stop : Nat
deriving DecidableEq

namespace Reason

/-- The reason in words. -/
def text : Reason → String
  | invalidStart => "invalid start byte"
  | invalidContinuation => "invalid continuation byte"
  | unexpectedEnd => "unexpected end of data"

end Reason

/-- The lower-case hexadecimal digits of a number, filled with zeros on the left to a width. -/
def hexText (width n : Nat) : List Char :=
  let ds := Nat.toDigits 16 n
  List.replicate (width - ds.length) '0' ++ ds

/-- The fault in words: a single byte is shown, a longer stretch is only located. -/
def Flaw.message (f : Flaw) : String :=
  let subject :=
    if f.stop = f.start + 1 then
      s!"byte 0x{String.ofList (hexText 2 f.first.toNat)} in position {f.start}"
    else s!"bytes in position {f.start}-{f.stop - 1}"
  s!"'utf-8' codec can't decode {subject}: {f.reason.text}"

end Utf8

/-- Why a text that is not whole has no bytes, in words: a single half is shown, a longer stretch is only
located. -/
def Torn.message (t : Torn) : String :=
  let subject :=
    if t.stop = t.start + 1 then
      s!"character '\\u{String.ofList (Utf8.hexText 4 t.first.code)}' in position {t.start}"
    else s!"characters in position {t.start}-{t.stop - 1}"
  s!"'utf-8' codec can't encode {subject}: surrogates not allowed"

namespace Utf8

/-- What a first byte announces: the bits it contributes, and the range of each byte to follow. -/
structure Lead where
  bits : Nat
  ranges : List (Nat × Nat)

/-- Any continuation byte. -/
def tail : Nat × Nat := (0x80, 0xBF)

/-- The meaning of a first byte. Second bytes that would spell a character in too many bytes, a
surrogate or a number beyond the last character are left out. -/
def lead? (byte : UInt8) : Option Lead :=
  let b := byte.toNat
  if b < 0x80 then some ⟨b, []⟩
  else if b < 0xC2 then none
  else if b < 0xE0 then some ⟨b - 0xC0, [tail]⟩
  else if b < 0xF0 then
    some ⟨b - 0xE0, [if b = 0xE0 then (0xA0, 0xBF) else if b = 0xED then (0x80, 0x9F) else tail, tail]⟩
  else if b < 0xF5 then
    some ⟨b - 0xF0,
      [if b = 0xF0 then (0x90, 0xBF) else if b = 0xF4 then (0x80, 0x8F) else tail, tail, tail]⟩
  else none

/-- Reads the bytes that continue a character: its code point and the bytes after it, or the reason and
the number of bytes read. -/
def takeTail (code count : Nat) : List (Nat × Nat) → List UInt8 → Except (Reason × Nat) (Nat × List UInt8)
  | [], bytes => .ok (code, bytes)
  | _ :: _, [] => .error (.unexpectedEnd, count)
  | (low, high) :: ranges, byte :: bytes =>
    if low ≤ byte.toNat ∧ byte.toNat ≤ high then
      takeTail (code * 64 + (byte.toNat - 0x80)) (count + 1) ranges bytes
    else .error (.invalidContinuation, count)

theorem takeTail_length {code count : Nat} {ranges : List (Nat × Nat)} {bytes rest : List UInt8}
    {n : Nat} (h : takeTail code count ranges bytes = .ok (n, rest)) : rest.length ≤ bytes.length := by
  induction ranges generalizing code count bytes with
  | nil => simp_all [takeTail]
  | cons r ranges ih =>
    cases bytes with
    | nil => simp [takeTail] at h
    | cons b bytes =>
      simp only [takeTail] at h
      split at h
      · have := ih h
        simp only [List.length_cons]
        omega
      · simp at h

/-- Decodes bytes that stand at a position. -/
def decodeAt (position : Nat) (bytes : List UInt8) : Except Flaw (List Char) :=
  match bytes with
  | [] => .ok []
  | byte :: bytes =>
    match lead? byte with
    | none => .error ⟨.invalidStart, byte, position, position + 1⟩
    | some lead =>
      match h : takeTail lead.bits 1 lead.ranges bytes with
      | .error (reason, count) => .error ⟨reason, byte, position, position + count⟩
      | .ok (code, rest) =>
        have := takeTail_length h
        match decodeAt (position + 1 + lead.ranges.length) rest with
        | .error flaw => .error flaw
        | .ok cs => .ok (Char.ofNat code :: cs)
termination_by bytes.length
decreasing_by simp only [List.length_cons]; omega

/-- Decodes a byte sequence. -/
def decode (bytes : List UInt8) : Except Flaw (List Char) := decodeAt 0 bytes

/-- The bytes of a text. -/
def encode (cs : List Char) : List UInt8 := cs.flatMap String.utf8EncodeChar

example : decode (encode "a€😀".toList) = .ok "a€😀".toList := by cbv

end Utf8

end Intake
