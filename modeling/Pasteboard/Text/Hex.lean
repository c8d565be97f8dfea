/-!
Bytes written as lower-case hexadecimal digits.
-/

namespace Pasteboard.Text.Hex

/-- The digit for a value below sixteen. -/
def digit (n : Nat) : Char :=
  if n < 10 then Char.ofNat (48 + n) else Char.ofNat (87 + n)

/-- The two digits of a byte. -/
def ofByte (b : UInt8) : List Char :=
  [digit (b.toNat / 16), digit (b.toNat % 16)]

/-- Two digits for every byte. -/
def encode (bytes : ByteArray) : String :=
  String.ofList (bytes.toList.flatMap ofByte)

/-- The value of a hexadecimal digit of either case. -/
def value? (c : Char) : Option Nat :=
  if '0' ≤ c ∧ c ≤ '9' then some (c.toNat - 48)
  else if 'a' ≤ c ∧ c ≤ 'f' then some (c.toNat - 87)
  else if 'A' ≤ c ∧ c ≤ 'F' then some (c.toNat - 55)
  else none

/-- Reads pairs of digits onto the bytes read so far. -/
def decodeOnto (bytes : ByteArray) : List Char → Option ByteArray
  | [] => some bytes
  | [_] => none
  | a :: b :: rest =>
    match value? a, value? b with
    | some x, some y => decodeOnto (bytes.push (UInt8.ofNat (x * 16 + y))) rest
    | _, _ => none

/-- The bytes that pairs of digits denote. -/
def decode (s : String) : Option ByteArray :=
  decodeOnto ByteArray.empty s.toList

end Pasteboard.Text.Hex
