import Pasteboard.Text.Charset.Basic
import Pasteboard.Text.Charset.GbIndex
/-!
GB 18030, an encoding of one, two or four bytes for a character.

The second and the fourth of four bytes are digits. Four bytes that break off are one fault, after
which the digit stands for itself and the bytes behind it are read anew.
-/

namespace Pasteboard.Text.Charset.Gb18030

/-- The bytes of a character under way. -/
inductive Pending
  | none
  | one (a : Nat)
  | two (a b : Nat)
  | three (a b c : Nat)
  deriving DecidableEq, Repr

/-- Whether a byte is a decimal digit. -/
def isDigit (b : Nat) : Bool :=
  0x30 ≤ b && b ≤ 0x39

/-- The character of a leading byte and a second byte. -/
def pair? (a b : Nat) : Option Char :=
  (cell? 0x80 0xFE b).bind fun cell => gbIndex.char? (190 * (a - 0x81) + cell)

/-- The number of four bytes. -/
def number (a b c d : Nat) : Nat :=
  ((10 * (a - 0x81) + (b - 0x30)) * 126 + (c - 0x81)) * 10 + (d - 0x30)

/-- The character of four bytes with a number: one for itself, all others in runs. -/
def runChar? (n : Nat) : Option Char :=
  if (39419 < n ∧ n < 189000) ∨ 1237575 < n then none
  else if n = 7457 then some '\ue7c7'
  else (gbRuns.findRev? (·.1 ≤ n)).map fun (first, code) => Char.ofNat (code + (n - first))

/-- Reads a first byte. -/
def readFirst (out : List Char) (a : Nat) : List Char × Pending :=
  if a < 0x80 then (Char.ofNat a :: out, .none)
  else if a = 0x80 then ('€' :: out, .none)
  else if a ≤ 0xFE then (out, .one a)
  else (Utf8.replacement :: out, .none)

/-- Reads a second byte. -/
def readSecond (out : List Char) (a b : Nat) : List Char × Pending :=
  if isDigit b then (out, .two a b)
  else match pair? a b with
    | some c => (c :: out, .none)
    | none => (afterFault out b, .none)

/-- Reads a byte; the characters read so far are in reverse order. -/
def step : List Char × Pending → UInt8 → List Char × Pending
  | (out, .none), a => readFirst out a.toNat
  | (out, .one a), b => readSecond out a b.toNat
  | (out, .two a b), c =>
    let c := c.toNat
    if 0x81 ≤ c ∧ c ≤ 0xFE then (out, .three a b c) else readFirst (afterFault out b) c
  | (out, .three a b c), d =>
    let d := d.toNat
    if isDigit d then ((runChar? (number a b c d)).getD Utf8.replacement :: out, .none)
    else readSecond (afterFault out b) c d

/-- Decodes bytes. -/
def decode (bytes : List UInt8) : List Char :=
  match bytes.foldl step ([], .none) with
  | (out, .none) => out.reverse
  | (out, _) => (Utf8.replacement :: out).reverse

end Pasteboard.Text.Charset.Gb18030
