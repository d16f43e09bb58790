/-!
# UTF-8

Texts as bytes and back.  A sequence is well formed if it starts with a lead byte and goes on with
as many continuation bytes as the lead byte announces; the byte after the lead byte is further
restricted so that there is no overlong form, no surrogate and nothing above U+10FFFF.

## What is here

* `encode` — the bytes of a text.
* `Utf8.Lead` — what a lead byte announces.
* `Utf8.Fault` — why bytes are not a text: the offset of the first bad sequence, its bytes up to
  the point where it goes wrong, and what is wrong with it.
* `decode` — the text of a sequence of bytes.  It reads one byte at a time; between bytes it
  remembers the sequence it is inside of (`Utf8.Pending`).
-/

set_option autoImplicit false

namespace EntityService.Text.Utf8

/-- The bytes of a text. -/
def encode (text : String) : List UInt8 := text.toList.flatMap String.utf8EncodeChar

/-- What is wrong with a sequence. -/
inductive Cause
  /-- No sequence starts with this byte. -/
  | invalidStart
  /-- The byte after the valid beginning does not continue it. -/
  | invalidContinuation
  /-- The bytes end inside the sequence. -/
  | unexpectedEnd
deriving DecidableEq, Repr

/-- The first bad sequence: its offset, its first byte, how many of its bytes are a valid beginning,
and what is wrong after them. -/
structure Fault where
  start : Nat
  first : UInt8
  length : Nat
  cause : Cause
deriving DecidableEq, Repr

/-- A lead byte announces how many bytes follow, which values the next of them may have, and the
high bits of the code point. -/
structure Lead where
  following : Nat
  low : UInt8
  high : UInt8
  bits : Nat

/-- What a byte from 0x80 upwards announces, if it is a lead byte. -/
def lead? (b : UInt8) : Option Lead :=
  if b < 0xc2 then none
  else if b < 0xe0 then some ⟨1, 0x80, 0xbf, b.toNat - 0xc0⟩
  else if b < 0xf0 then
    some ⟨2, if b = 0xe0 then 0xa0 else 0x80, if b = 0xed then 0x9f else 0xbf, b.toNat - 0xe0⟩
  else if b < 0xf5 then
    some ⟨3, if b = 0xf0 then 0x90 else 0x80, if b = 0xf4 then 0x8f else 0xbf, b.toNat - 0xf0⟩
  else none

/-- A sequence that has begun: its offset, its first byte, how many bytes have been read, and what
is still to come. -/
structure Pending where
  start : Nat
  first : UInt8
  length : Nat
  rest : Lead

/-- Reads the bytes from a given offset on.  `text` holds the characters read so far, last one
first. -/
def decodeFrom (offset : Nat) (text : List Char) :
    Option Pending → List UInt8 → Except Fault (List Char)
  | none, [] => .ok text.reverse
  | some p, [] => .error ⟨p.start, p.first, p.length, .unexpectedEnd⟩
  | none, b :: bytes =>
    if b < 0x80 then decodeFrom (offset + 1) (Char.ofNat b.toNat :: text) none bytes
    else match lead? b with
      | none => .error ⟨offset, b, 1, .invalidStart⟩
      | some lead => decodeFrom (offset + 1) text (some ⟨offset, b, 1, lead⟩) bytes
  | some p, b :: bytes =>
    if p.rest.low ≤ b ∧ b ≤ p.rest.high then
      let bits := 64 * p.rest.bits + (b.toNat - 0x80)
      if p.rest.following ≤ 1 then decodeFrom (offset + 1) (Char.ofNat bits :: text) none bytes
      else
        decodeFrom (offset + 1) text
          (some ⟨p.start, p.first, p.length + 1, ⟨p.rest.following - 1, 0x80, 0xbf, bits⟩⟩) bytes
    else .error ⟨p.start, p.first, p.length, .invalidContinuation⟩

/-- The text of a sequence of bytes, or the first fault. -/
def decode (bytes : List UInt8) : Except Fault String :=
  (decodeFrom 0 [] none bytes).map String.ofList

end EntityService.Text.Utf8
