/-!
Decoding bytes that may not be UTF-8.

`decode` reads well-formed sequences and puts U+FFFD in the place of every maximal part of a
sequence that does not continue as it must, as the Unicode standard recommends.
-/

namespace Pasteboard.Text.Utf8

/-- What follows a leading byte: how many bytes, the bounds of the first of them, and the bits that
the leading byte contributes. -/
structure Lead where
  /-- The number of continuation bytes. -/
  more : Nat
  /-- The least value of the first continuation byte. -/
  low : Nat
  /-- The greatest value of the first continuation byte. -/
  high : Nat
  /-- The bits of the leading byte. -/
  bits : Nat

/-- The leading bytes of sequences of two, three and four bytes. -/
def lead? (b : Nat) : Option Lead :=
  if 0xC2 ≤ b ∧ b ≤ 0xDF then some ⟨1, 0x80, 0xBF, b - 0xC0⟩
  else if b = 0xE0 then some ⟨2, 0xA0, 0xBF, 0⟩
  else if b = 0xED then some ⟨2, 0x80, 0x9F, 0xD⟩
  else if 0xE1 ≤ b ∧ b ≤ 0xEF then some ⟨2, 0x80, 0xBF, b - 0xE0⟩
  else if b = 0xF0 then some ⟨3, 0x90, 0xBF, 0⟩
  else if b = 0xF4 then some ⟨3, 0x80, 0x8F, 4⟩
  else if 0xF1 ≤ b ∧ b ≤ 0xF3 then some ⟨3, 0x80, 0xBF, b - 0xF0⟩
  else none

/-- The sequence under way: bytes still due, the bounds of the next one, the bits so far. -/
abbrev Pending := Option Lead

/-- U+FFFD, the replacement character. -/
def replacement : Char := Char.ofNat 0xFFFD

/-- Reads one byte where no sequence is under way. -/
def start (out : List Char) (b : Nat) : List Char × Pending :=
  if b < 0x80 then (Char.ofNat b :: out, none)
  else match lead? b with
    | some l => (out, some l)
    | none => (replacement :: out, none)

/-- Reads one byte; the characters read so far are in reverse order. -/
def step : List Char × Pending → UInt8 → List Char × Pending
  | (out, none), b => start out b.toNat
  | (out, some l), b =>
    if l.low ≤ b.toNat ∧ b.toNat ≤ l.high then
      let bits := l.bits * 64 + (b.toNat - 0x80)
      if l.more ≤ 1 then (Char.ofNat bits :: out, none)
      else (out, some ⟨l.more - 1, 0x80, 0xBF, bits⟩)
    else start (replacement :: out) b.toNat

/-- Decodes bytes, with U+FFFD for what is not well formed. -/
def decode (bytes : List UInt8) : List Char :=
  match bytes.foldl step ([], none) with
  | (out, none) => out.reverse
  | (out, some _) => (replacement :: out).reverse

/-- The text of bytes, with U+FFFD for what is not well formed. -/
def text (bytes : ByteArray) : String :=
  (String.fromUTF8? bytes).getD (String.ofList (decode bytes.toList))

end Pasteboard.Text.Utf8
