import Pasteboard.Text.Charset.Basic
import Pasteboard.Text.Charset.Jis0208
/-!
ISO-2022-JP, an encoding of seven bits that switches between sets of characters.

An escape sequence of three bytes names the set that is in use from there on. A sequence that
follows another one at once is a fault, though it takes effect; one that names no known set is a
fault, and the bytes after its first one are read as text.
-/

namespace Pasteboard.Text.Charset.Iso2022Jp

/-- The sets. -/
inductive Mode
  | ascii
  | roman
  | katakana
  | kanji
  deriving DecidableEq, Repr

/-- What the bytes before the next one have begun. -/
inductive Phase
  | text
  /-- A character of two bytes. -/
  | pair (lead : Nat)
  /-- An escape sequence. -/
  | escape
  /-- An escape sequence with its second byte. -/
  | escapeTo (second : Nat)
  deriving DecidableEq, Repr

/-- The state of reading. -/
structure State where
  /-- The characters so far, in reverse order. -/
  out : List Char := []
  mode : Mode := .ascii
  phase : Phase := .text
  /-- Whether nothing was read since an escape sequence. -/
  switched : Bool := false

/-- The set that an escape sequence names by its second and third byte. -/
def mode? : Nat → Nat → Option Mode
  | 0x28, 0x42 => some .ascii
  | 0x28, 0x4A => some .roman
  | 0x28, 0x49 => some .katakana
  | 0x24, 0x40 => some .kanji
  | 0x24, 0x42 => some .kanji
  | _, _ => none

/-- The character of a byte of ASCII; there is none for the three controls that switch sets. -/
def plain (b : Nat) : Char :=
  if b < 0x80 ∧ b ≠ 0x0E ∧ b ≠ 0x0F ∧ b ≠ 0x1B then Char.ofNat b else Utf8.replacement

/-- Whether a byte is one of a pair. -/
def isPlace (b : Nat) : Bool :=
  0x21 ≤ b && b ≤ 0x7E

namespace State

/-- Puts a character into the text. -/
def push (s : State) (c : Char) : State :=
  { s with out := c :: s.out, phase := .text }

/-- Puts a fault into the text. -/
def fault (s : State) : State :=
  { s.push Utf8.replacement with switched := false }

/-- Reads a byte in the set in use. -/
def readText (s : State) (b : Nat) : State :=
  if b = 0x1B then { s with phase := .escape }
  else
    let s := { s with switched := false }
    match s.mode with
    | .ascii => s.push (plain b)
    | .roman => s.push (if b = 0x5C then '¥' else if b = 0x7E then '‾' else plain b)
    | .katakana =>
      s.push (if 0x21 ≤ b ∧ b ≤ 0x5F then halfWidth (b - 0x21) else Utf8.replacement)
    | .kanji => if isPlace b then { s with phase := .pair b } else s.push Utf8.replacement

/-- Reads the second byte of a pair. -/
def readPair (s : State) (lead b : Nat) : State :=
  if b = 0x1B then { s.push Utf8.replacement with phase := .escape }
  else if isPlace b then
    s.push ((jis0208.char? (94 * (lead - 0x21) + (b - 0x21))).getD Utf8.replacement)
  else s.push Utf8.replacement

/-- Reads a byte outside escape sequences. -/
def readPlain (s : State) (b : Nat) : State :=
  match s.phase with
  | .pair lead => s.readPair lead b
  | _ => s.readText b

/-- Reads a byte. -/
def step (s : State) (byte : UInt8) : State :=
  let b := byte.toNat
  match s.phase with
  | .escape =>
    if b = 0x24 ∨ b = 0x28 then { s with phase := .escapeTo b } else s.fault.readText b
  | .escapeTo second =>
    match mode? second b with
    | some mode =>
      let s := if s.switched then s.push Utf8.replacement else s
      { s with mode, phase := .text, switched := true }
    | none => (s.fault.readText second).readPlain b
  | _ => s.readPlain b

/-- The characters at the end of the bytes, where nothing may be under way. -/
def finish (s : State) : List Char :=
  let s := match s.phase with
    | .escapeTo second => s.fault.readText second
    | _ => s
  match s.phase with
  | .text => s.out.reverse
  | _ => (Utf8.replacement :: s.out).reverse

end State

/-- Decodes bytes. -/
def decode (bytes : List UInt8) : List Char :=
  (bytes.foldl State.step {}).finish

end Pasteboard.Text.Charset.Iso2022Jp
