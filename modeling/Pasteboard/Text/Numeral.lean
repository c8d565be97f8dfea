/-!
Decimal numerals in a fixed range.

A numeral is an optional sign and at least one ASCII digit. Reading goes from left to right and
stops at the first fault: a character that is no digit, or a digit that carries the value out of
the range. A minus sign is only a sign where the range has negative numbers.
-/

namespace Pasteboard.Text.Numeral

/-- The numbers that a numeral may denote. -/
structure Range where
  /-- The least number. -/
  low : Int
  /-- The greatest number. -/
  high : Int
  deriving DecidableEq, Repr

/-- The integers of 64 bits with a sign. -/
def int64 : Range := ⟨-9223372036854775808, 9223372036854775807⟩

/-- The integers of 64 bits without a sign. -/
def nat64 : Range := ⟨0, 18446744073709551615⟩

/-- The integers of 32 bits without a sign. -/
def nat32 : Range := ⟨0, 4294967295⟩

/-- The integers of 16 bits without a sign. -/
def nat16 : Range := ⟨0, 65535⟩

/-- Whether a number lies in a range. -/
def Range.holds (r : Range) (n : Int) : Bool :=
  decide (r.low ≤ n) && decide (n ≤ r.high)

/-- Why a text is no numeral of a range. -/
inductive Fault
  | empty
  | notDigit
  | tooLarge
  | tooSmall
  deriving DecidableEq, Repr

/-- The words for a fault. -/
def Fault.message : Fault → String
  | .empty => "cannot parse integer from empty string"
  | .notDigit => "invalid digit found in string"
  | .tooLarge => "number too large to fit in target type"
  | .tooSmall => "number too small to fit in target type"

/-- The value of an ASCII digit. -/
def digit? (c : Char) : Option Nat :=
  if '0' ≤ c ∧ c ≤ '9' then some (c.toNat - 48) else none

/-- Reads digits onto a magnitude that may not exceed `bound`. -/
def magnitude (bound : Nat) (beyond : Fault) (value : Nat) : List Char → Except Fault Nat
  | [] => .ok value
  | c :: cs =>
    match digit? c with
    | none => .error .notDigit
    | some d =>
      if value * 10 + d ≤ bound then magnitude bound beyond (value * 10 + d) cs else .error beyond

/-- Reads a list of characters as a number of the range `r`. -/
def readChars (r : Range) : List Char → Except Fault Int
  | [] => .error .empty
  | ['+'] => .error .notDigit
  | ['-'] => .error .notDigit
  | '+' :: cs => (magnitude r.high.toNat .tooLarge 0 cs).map Int.ofNat
  | '-' :: cs =>
    if r.low < 0 then (magnitude (-r.low).toNat .tooSmall 0 cs).map fun n => -Int.ofNat n
    else .error .notDigit
  | cs => (magnitude r.high.toNat .tooLarge 0 cs).map Int.ofNat

/-- Reads a text as a number of the range `r`. -/
def read (r : Range) (s : String) : Except Fault Int :=
  readChars r s.toList

/-- The number that a text denotes in the range `r`, if it is a numeral of it. -/
def read? (r : Range) (s : String) : Option Int :=
  (read r s).toOption

end Pasteboard.Text.Numeral
