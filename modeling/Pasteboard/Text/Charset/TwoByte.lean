import Pasteboard.Text.Charset.Basic
import Pasteboard.Text.Charset.Big5Index
import Pasteboard.Text.Charset.Hangul
import Pasteboard.Text.Charset.Jis0208
/-!
Encodings of one or two bytes for a character: Shift_JIS, EUC-KR and Big5.

A byte either stands alone or leads a pair. A pair without a character is one fault, and so is a
leading byte at the end of the text.
-/

namespace Pasteboard.Text.Charset

/-- What tells such an encoding apart. -/
structure TwoByte where
  /-- The character of a byte that stands alone. -/
  single? : Nat → Option Char
  /-- Whether a byte leads a pair. -/
  isLead : Nat → Bool
  /-- The characters of a pair. -/
  pair? : Nat → Nat → Option (List Char)

namespace TwoByte

/-- Reads a byte where no pair is under way. -/
def start (x : TwoByte) (out : List Char) (b : Nat) : List Char × Option Nat :=
  match x.single? b with
  | some c => (c :: out, none)
  | none => if x.isLead b then (out, some b) else (Utf8.replacement :: out, none)

/-- Reads a byte after the characters so far, in reverse order, and a leading byte that waits. -/
def step (x : TwoByte) : List Char × Option Nat → UInt8 → List Char × Option Nat
  | (out, none), b => x.start out b.toNat
  | (out, some lead), b =>
    match x.pair? lead b.toNat with
    | some cs => (cs.reverse ++ out, none)
    | none => (afterFault out b.toNat, none)

/-- Decodes bytes. -/
def decode (x : TwoByte) (bytes : List UInt8) : List Char :=
  match bytes.foldl x.step ([], none) with
  | (out, none) => out.reverse
  | (out, some _) => (Utf8.replacement :: out).reverse

end TwoByte

/-- The character of a byte of ASCII. -/
def ascii? (b : Nat) : Option Char :=
  if b < 0x80 then some (Char.ofNat b) else none

/-- Whether a byte is one from 0x81 to 0xFE. -/
def isUpperLead (b : Nat) : Bool :=
  0x81 ≤ b && b ≤ 0xFE

/-! ### Shift_JIS -/

/-- The number of a pair of Shift_JIS, whose leading bytes come in two ranges. -/
def shiftJisNumber? (lead b : Nat) : Option Nat :=
  (cell? 0x80 0xFC b).map (188 * (lead - (if lead < 0xA0 then 0x81 else 0xC1)) + ·)

/-- The character with a number in Shift_JIS: between the standard and its additions, ten rows of
leading bytes are left to private use. -/
def shiftJisChar? (n : Nat) : Option Char :=
  if 8836 ≤ n ∧ n ≤ 10715 then some (Char.ofNat (0xE000 + (n - 8836)))
  else (jis0208.char? n).or (jis0208Additions.char? n)

/-- Shift_JIS: half-width katakana have one byte. -/
def shiftJis : TwoByte where
  single? b :=
    if b ≤ 0x80 then some (Char.ofNat b)
    else if 0xA1 ≤ b ∧ b ≤ 0xDF then some (halfWidth (b - 0xA1))
    else none
  isLead b := (0x81 ≤ b && b ≤ 0x9F) || (0xE0 ≤ b && b ≤ 0xFC)
  pair? lead b := (shiftJisNumber? lead b).bind fun n => (shiftJisChar? n).map ([·])

/-! ### EUC-KR -/

/-- EUC-KR, extended by the syllables that the standard leaves out. -/
def eucKr : TwoByte where
  single? := ascii?
  isLead := isUpperLead
  pair? lead b :=
    if 0x41 ≤ b ∧ b ≤ 0xFE then (hangul.char? (190 * (lead - 0x81) + (b - 0x41))).map ([·])
    else none

/-! ### Big5 -/

/-- The numbers of Big5 that stand for a letter and a combining mark. -/
def big5Marked : List (Nat × List Char) :=
  [(1133, ['\u00ca', '\u0304']), (1135, ['\u00ca', '\u030c']),
    (1164, ['\u00ea', '\u0304']), (1166, ['\u00ea', '\u030c'])]

/-- Big5 with the Hong Kong supplement. -/
def big5 : TwoByte where
  single? := ascii?
  isLead := isUpperLead
  pair? lead b :=
    (cell? 0xA1 0xFE b).bind fun cell =>
      let n := 157 * (lead - 0x81) + cell
      (big5Marked.lookup n).or ((big5Index.char? n).map ([·]))

end Pasteboard.Text.Charset
