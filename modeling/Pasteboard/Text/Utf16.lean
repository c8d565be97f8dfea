import Pasteboard.Text.Utf8
/-!
Decoding UTF-16 of either order of bytes.

A surrogate without its partner and a byte without its partner become U+FFFD.
-/

namespace Pasteboard.Text.Utf16

/-- The units of 16 bits in bytes; none stands for a byte without a partner. -/
def units (bigEndian : Bool) (out : List (Option Nat)) : List UInt8 → List (Option Nat)
  | a :: b :: rest =>
    let unit := if bigEndian then a.toNat * 256 + b.toNat else b.toNat * 256 + a.toNat
    units bigEndian (some unit :: out) rest
  | [_] => (none :: out).reverse
  | [] => out.reverse

/-- Reads a unit after the characters so far, in reverse order, and a leading surrogate that waits
for its partner. -/
def step : List Char × Option Nat → Option Nat → List Char × Option Nat
  | (out, waiting), unit =>
    let spoiled := if waiting.isSome then Utf8.replacement :: out else out
    match waiting, unit with
    | _, none => (Utf8.replacement :: out, none)
    | some high, some n =>
      if 0xDC00 ≤ n ∧ n ≤ 0xDFFF then
        (Char.ofNat (0x10000 + (high - 0xD800) * 1024 + (n - 0xDC00)) :: out, none)
      else if 0xD800 ≤ n ∧ n ≤ 0xDBFF then (spoiled, some n)
      else (Char.ofNat n :: spoiled, none)
    | none, some n =>
      if 0xD800 ≤ n ∧ n ≤ 0xDBFF then (out, some n)
      else if 0xDC00 ≤ n ∧ n ≤ 0xDFFF then (Utf8.replacement :: out, none)
      else (Char.ofNat n :: out, none)

/-- The characters of units of 16 bits. -/
def ofUnits (us : List (Option Nat)) : List Char :=
  match us.foldl step ([], none) with
  | (out, none) => out.reverse
  | (out, some _) => (Utf8.replacement :: out).reverse

/-- Decodes bytes. -/
def decode (bigEndian : Bool) (bytes : List UInt8) : List Char :=
  ofUnits (units bigEndian [] bytes)

end Pasteboard.Text.Utf16
