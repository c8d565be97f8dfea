import Pasteboard.Text.Utf8
/-!
What encodings of several bytes for a character have in common.

Their characters are numbered, and an `Index` has them by number. Bytes without a character are a
fault, which puts U+FFFD into the text; a byte of ASCII at the end of the fault stands for itself
all the same, so that no fault hides a quote or an end of line.
-/

namespace Pasteboard.Text.Charset

/-- The characters with the numbers from `first` on; U+FFFD marks a number without a character. -/
structure Index where
  first : Nat
  chars : Array Char

namespace Index

/-- The index of the characters in the given rows, one after the other. -/
def ofRows (first : Nat) (rows : List String) : Index :=
  ⟨first, (rows.flatMap String.toList).toArray⟩

/-- The character with a number. -/
def char? (x : Index) (n : Nat) : Option Char :=
  if n < x.first then none
  else (x.chars[n - x.first]?).filter (· != '\ufffd')

end Index

/-- The characters so far, in reverse order, after a fault that ends in the byte `b`. -/
def afterFault (out : List Char) (b : Nat) : List Char :=
  if b < 0x80 then Char.ofNat b :: Utf8.replacement :: out else Utf8.replacement :: out

/-- The place of a byte among those from 0x40 to 0x7E and from `low` to `high`. -/
def cell? (low high b : Nat) : Option Nat :=
  if 0x40 ≤ b ∧ b ≤ 0x7E then some (b - 0x40)
  else if low ≤ b ∧ b ≤ high then some (63 + (b - low))
  else none

/-- The half-width form of katakana in a place of their row. -/
def halfWidth (place : Nat) : Char :=
  Char.ofNat (0xFF61 + place)

end Pasteboard.Text.Charset
