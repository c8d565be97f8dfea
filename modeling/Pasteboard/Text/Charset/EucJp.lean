import Pasteboard.Text.Charset.Basic
import Pasteboard.Text.Charset.Jis0208
import Pasteboard.Text.Charset.Jis0212
/-!
EUC-JP, an encoding of one to three bytes for a character.

ASCII has one byte, a character of JIS X 0208 its row and its cell. The byte 0x8E announces a
half-width form, the byte 0x8F the row and the cell of a character of JIS X 0212.
-/

namespace Pasteboard.Text.Charset.EucJp

/-- The bytes of a character under way. -/
inductive Pending
  | nothing
  /-- The first byte. -/
  | lead (a : Nat)
  /-- The row in the supplement. -/
  | supplement (a : Nat)
  deriving DecidableEq, Repr

/-- Whether a byte is one of a row or of a cell. -/
def isPlace (b : Nat) : Bool :=
  0xA1 ≤ b && b ≤ 0xFE

/-- The character of a row and a cell. -/
def char? (x : Index) (row cell : Nat) : Option Char :=
  if isPlace row && isPlace cell then x.char? (94 * (row - 0xA1) + (cell - 0xA1)) else none

/-- Reads the last byte of a character that may not be there. -/
def finish (out : List Char) (c? : Option Char) (b : Nat) : List Char × Pending :=
  match c? with
  | some c => (c :: out, .nothing)
  | none => (afterFault out b, .nothing)

/-- Reads a byte; the characters read so far are in reverse order. -/
def step : List Char × Pending → UInt8 → List Char × Pending
  | (out, .nothing), b =>
    let b := b.toNat
    if b < 0x80 then (Char.ofNat b :: out, .nothing)
    else if b = 0x8E ∨ b = 0x8F ∨ isPlace b then (out, .lead b)
    else (Utf8.replacement :: out, .nothing)
  | (out, .lead a), b =>
    let b := b.toNat
    if a = 0x8F ∧ isPlace b then (out, .supplement b)
    else if a = 0x8E ∧ 0xA1 ≤ b ∧ b ≤ 0xDF then (halfWidth (b - 0xA1) :: out, .nothing)
    else finish out (char? jis0208 a b) b
  | (out, .supplement a), b => finish out (char? jis0212 a b.toNat) b.toNat

/-- Decodes bytes. -/
def decode (bytes : List UInt8) : List Char :=
  match bytes.foldl step ([], .nothing) with
  | (out, .nothing) => out.reverse
  | (out, _) => (Utf8.replacement :: out).reverse

end Pasteboard.Text.Charset.EucJp
