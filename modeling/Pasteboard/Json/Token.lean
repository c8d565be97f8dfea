import Pasteboard.Json.Value
import Pasteboard.Text.Hex
/-!
The tokens of a JSON text.

Reading goes byte by byte. A text that stops being JSON ends in the token `bad`, so that whoever
reads the tokens sees every complete token before the fault. The value of a string or a number
that is well formed but denotes nothing (a lone surrogate, bytes that are not UTF-8, a number that
is too large) is missing: such a token may be skipped but not used.
-/

namespace Pasteboard.Json

open Pasteboard.Text (Binary64)

/-- A token. -/
inductive Token
  | openObject
  | closeObject
  | openArray
  | closeArray
  | comma
  | colon
  | null
  | bool (b : Bool)
  | num (n : Option Number)
  | str (s : Option String)
  | bad
  deriving DecidableEq, Repr

/-- Space, tab, newline and carriage return. -/
def isSpace (b : UInt8) : Bool :=
  b == 0x20 || b == 0x09 || b == 0x0A || b == 0x0D

/-- The ASCII digits. -/
def isDigit (b : UInt8) : Bool :=
  0x30 ≤ b && b ≤ 0x39

/-- The value of an ASCII digit. -/
def digitValue (b : UInt8) : Nat :=
  b.toNat - 0x30

/-! ### Numbers -/

/-- The greatest significand that is kept; further digits only count. -/
def maxSignificand : Nat := 18446744073709551615

/-- The digits of a number read so far: the significand that fits, the power of ten it stands
for, and whether digits are only counted by now. -/
structure Digits where
  significand : Nat
  exponent : Int
  full : Bool

/-- Adds a digit before the decimal point. -/
def Digits.addWhole (d : Digits) (b : UInt8) : Digits :=
  let next := d.significand * 10 + digitValue b
  if d.full || maxSignificand < next then ⟨d.significand, d.exponent + 1, true⟩
  else ⟨next, d.exponent, false⟩

/-- Adds a digit after the decimal point; from the first digit that does not fit, digits are
dropped. -/
def Digits.addFraction (d : Digits) (b : UInt8) : Digits :=
  let next := d.significand * 10 + digitValue b
  if d.full || maxSignificand < next then ⟨d.significand, d.exponent, true⟩
  else ⟨next, d.exponent - 1, false⟩

/-- The power of ten, rounded to a binary number. -/
def power (n : Nat) : Option Binary64 :=
  Binary64.round (Nat.pow 10 n) 1

/-- Scales by a power of ten: by one factor up to `10 ^ 308`, and before that by steps of `10 ^ -308`
for smaller powers. -/
def scale : Nat → Binary64 → Int → Option Binary64
  | 0, x, _ => some x
  | fuel + 1, x, e =>
    if e.natAbs ≤ 308 then
      match power e.natAbs with
      | none => none
      | some p => if 0 ≤ e then x.mul p else x.div p
    else if x.mantissa = 0 then some x
    else if 0 ≤ e then none
    else match power 308 with
      | none => none
      | some p =>
        match x.div p with
        | none => none
        | some y => scale fuel y (e + 308)

/-- The binary number for a significand and a power of ten; none if it is too large. -/
def realOf (significand : Nat) (e : Int) : Option Binary64 :=
  match Binary64.round significand 1 with
  | none => none
  | some x => scale 12 x (max e (-4000))

/-- The number for a sign, digits and an exponent that were written with a point or an exponent,
or that do not fit a whole number. -/
def realNumber (negative : Bool) (d : Digits) (e : Int) : Option Number :=
  (realOf d.significand (d.exponent + e)).map fun x => .real negative x

/-- The number for a sign and digits alone. -/
def wholeNumber (negative : Bool) (d : Digits) : Option Number :=
  if d.full then realNumber negative d 0
  else if negative then
    if d.significand = 0 ∨ 9223372036854775808 < d.significand then realNumber true d 0
    else some (.whole (-Int.ofNat d.significand))
  else some (.whole d.significand)

/-- The number for a sign, digits and a written exponent. An exponent of more than 32 bits makes
the number zero, or too large if it is positive and the digits are not zero. -/
def scaledNumber (negative : Bool) (d : Digits) (negativeExponent : Bool) (e : Nat) :
    Option Number :=
  if 2147483647 < e then
    if d.significand ≠ 0 ∧ !negativeExponent then none
    else some (.real negative ⟨0, Binary64.minExponent⟩)
  else realNumber negative d (if negativeExponent then -Int.ofNat e else e)

/-- Reads the digits of an exponent. -/
def exponentDigits (value : Nat) : List UInt8 → Nat × List UInt8
  | [] => (value, [])
  | b :: rest =>
    if isDigit b then exponentDigits (min (value * 10 + digitValue b) 4294967296) rest
    else (value, b :: rest)

/-- Reads what follows the letter of an exponent. -/
def exponentPart (negative : Bool) (d : Digits) (bytes : List UInt8) :
    Option (Option Number × List UInt8) :=
  let (negativeExponent, bytes) := match bytes with
    | 0x2B :: rest => (false, rest)
    | 0x2D :: rest => (true, rest)
    | rest => (false, rest)
  match bytes with
  | b :: rest =>
    if isDigit b then
      let (e, rest) := exponentDigits (digitValue b) rest
      some (scaledNumber negative d negativeExponent e, rest)
    else none
  | [] => none

/-- Reads digits after the decimal point, at least one of which was seen if `any`. -/
def fractionDigits (any : Bool) (d : Digits) : List UInt8 → Option (Digits × List UInt8)
  | [] => if any then some (d, []) else none
  | b :: rest =>
    if isDigit b then fractionDigits true (d.addFraction b) rest
    else if any then some (d, b :: rest) else none

/-- Reads what follows the digits of a number. -/
def afterDigits (negative : Bool) (d : Digits) (pointed : Bool) (bytes : List UInt8) :
    Option (Option Number × List UInt8) :=
  match bytes with
  | 0x65 :: rest => exponentPart negative d rest
  | 0x45 :: rest => exponentPart negative d rest
  | rest => some (if pointed then realNumber negative d 0 else wholeNumber negative d, rest)

/-- Reads digits before the decimal point. -/
def wholeDigits (d : Digits) : List UInt8 → Digits × List UInt8
  | [] => (d, [])
  | b :: rest => if isDigit b then wholeDigits (d.addWhole b) rest else (d, b :: rest)

/-- Reads what follows the integer part of a number. -/
def afterWhole (negative : Bool) (d : Digits) (bytes : List UInt8) :
    Option (Option Number × List UInt8) :=
  match bytes with
  | 0x2E :: rest =>
    match fractionDigits false ⟨d.significand, d.exponent, false⟩ rest with
    | some (d, rest) => afterDigits negative d true rest
    | none => none
  | rest => afterDigits negative d false rest

/-- Reads a number after its sign: a zero that no digit follows, or digits that start with none. -/
def number (negative : Bool) (bytes : List UInt8) : Option (Option Number × List UInt8) :=
  match bytes with
  | 0x30 :: rest =>
    match rest with
    | b :: _ => if isDigit b then none else afterWhole negative ⟨0, 0, false⟩ rest
    | [] => afterWhole negative ⟨0, 0, false⟩ []
  | b :: rest =>
    if isDigit b then
      let (d, rest) := wholeDigits ⟨digitValue b, 0, false⟩ rest
      afterWhole negative d rest
    else none
  | [] => none

/-! ### Strings -/

/-- The value of a hexadecimal digit. -/
def hexValue? (b : UInt8) : Option Nat :=
  Text.Hex.value? (Char.ofNat b.toNat)

/-- The character that a one-letter escape stands for. -/
def escaped? (b : UInt8) : Option UInt8 :=
  match b with
  | 0x22 => some 0x22
  | 0x5C => some 0x5C
  | 0x2F => some 0x2F
  | 0x62 => some 0x08
  | 0x66 => some 0x0C
  | 0x6E => some 0x0A
  | 0x72 => some 0x0D
  | 0x74 => some 0x09
  | _ => none

/-- The bytes of a string read so far, in reverse order, and whether they denote a text. -/
structure Chars where
  bytes : List UInt8
  good : Bool

/-- Adds one byte. -/
def Chars.add (cs : Chars) (b : UInt8) : Chars := ⟨b :: cs.bytes, cs.good⟩

/-- Adds the bytes of a character. -/
def Chars.addChar (cs : Chars) (n : Nat) : Chars :=
  ⟨(String.utf8EncodeChar (Char.ofNat n)).reverse ++ cs.bytes, cs.good⟩

/-- Marks the string as one that denotes no text. -/
def Chars.spoil (cs : Chars) : Chars := ⟨cs.bytes, false⟩

/-- The text of the bytes, if they are UTF-8. -/
def Chars.text? (cs : Chars) : Option String :=
  if cs.good then String.fromUTF8? ⟨cs.bytes.reverse.toArray⟩ else none

/-- Where in a string the reader is: between characters, after a backslash, within the hexadecimal
digits of an escape, or after an escaped high surrogate. The escape after a high surrogate keeps
it. -/
inductive Mode
  | plain
  | escape (high : Option Nat)
  | unit (high : Option Nat) (left value : Nat)
  | afterHigh (high : Nat)

/-- The high half of a pair of surrogates. -/
def isHigh (n : Nat) : Bool := 0xD800 ≤ n && n ≤ 0xDBFF

/-- The low half of a pair of surrogates. -/
def isLow (n : Nat) : Bool := 0xDC00 ≤ n && n ≤ 0xDFFF

/-- An escaped unit that no high surrogate precedes. -/
def Chars.unit (cs : Chars) (n : Nat) : Mode × Chars :=
  if isHigh n then (.afterHigh n, cs)
  else if isLow n then (.plain, cs.spoil)
  else (.plain, cs.addChar n)

/-- An escaped unit. A high surrogate must be followed by a low one. -/
def Chars.unitAfter (cs : Chars) (high : Option Nat) (n : Nat) : Mode × Chars :=
  match high with
  | none => cs.unit n
  | some h =>
    if isLow n then (.plain, cs.addChar (0x10000 + (h - 0xD800) * 1024 + (n - 0xDC00)))
    else cs.spoil.unit n

/-- One byte of a string that does not end it. -/
def Chars.step (cs : Chars) (b : UInt8) : Mode → Option (Mode × Chars)
  | .plain =>
    if b = 0x5C then some (.escape none, cs)
    else if b < 0x20 then none
    else some (.plain, cs.add b)
  | .afterHigh h =>
    if b = 0x5C then some (.escape (some h), cs)
    else if b < 0x20 then none
    else some (.plain, cs.spoil.add b)
  | .escape high =>
    if b = 0x75 then some (.unit high 4 0, cs)
    else (escaped? b).map fun e => (.plain, (if high.isSome then cs.spoil else cs).add e)
  | .unit high left value =>
    (hexValue? b).map fun d =>
      if 1 < left then (.unit high (left - 1) (value * 16 + d), cs)
      else cs.unitAfter high (value * 16 + d)

/-- The text of a string that a quote ends, if a quote may end it here. -/
def Chars.close (cs : Chars) : Mode → Option (Option String)
  | .plain => some cs.text?
  | .afterHigh _ => some none
  | _ => none

/-- Reads the rest of a string. -/
def stringRest (mode : Mode) (cs : Chars) : List UInt8 → Option (Option String × List UInt8)
  | [] => none
  | b :: rest =>
    match if b = 0x22 then cs.close mode else none with
    | some text => some (text, rest)
    | none =>
      match cs.step b mode with
      | some (mode, cs) => stringRest mode cs rest
      | none => none

/-! ### Tokens -/

/-- Drops the bytes of a word that must follow. -/
def after? : List UInt8 → List UInt8 → Option (List UInt8)
  | [], rest => some rest
  | w :: ws, b :: rest => if w = b then after? ws rest else none
  | _ :: _, [] => none

/-- The token that starts with a byte, and what follows it; none if there is no such token. -/
def tokenFrom (b : UInt8) (rest : List UInt8) : Option (Token × List UInt8) :=
  match b with
  | 0x7B => some (.openObject, rest)
  | 0x7D => some (.closeObject, rest)
  | 0x5B => some (.openArray, rest)
  | 0x5D => some (.closeArray, rest)
  | 0x2C => some (.comma, rest)
  | 0x3A => some (.colon, rest)
  | 0x22 => (stringRest .plain ⟨[], true⟩ rest).map fun (s, rest) => (.str s, rest)
  | 0x6E => (after? [0x75, 0x6C, 0x6C] rest).map fun rest => (.null, rest)
  | 0x74 => (after? [0x72, 0x75, 0x65] rest).map fun rest => (.bool true, rest)
  | 0x66 => (after? [0x61, 0x6C, 0x73, 0x65] rest).map fun rest => (.bool false, rest)
  | 0x2D => (number true rest).map fun (n, rest) => (.num n, rest)
  | b => (number false (b :: rest)).map fun (n, rest) => (.num n, rest)

/-- Reads tokens onto those read so far, which are in reverse order. The fuel is the number of
bytes: every token takes at least one. -/
def tokensOnto : Nat → List Token → List UInt8 → List Token
  | _, out, [] => out.reverse
  | 0, out, _ :: _ => (Token.bad :: out).reverse
  | fuel + 1, out, b :: rest =>
    if isSpace b then tokensOnto fuel out rest
    else match tokenFrom b rest with
      | some (token, rest) => tokensOnto fuel (token :: out) rest
      | none => (Token.bad :: out).reverse

/-- The tokens of a text. -/
def tokens (bytes : List UInt8) : List Token :=
  tokensOnto bytes.length [] bytes

end Pasteboard.Json
