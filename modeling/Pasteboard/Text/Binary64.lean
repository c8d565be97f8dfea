/-!
Binary floating-point numbers of 64 bits, in exact arithmetic.

A finite number is a mantissa below `2 ^ 53` times a power of two. `round` takes a quotient to the
nearest such number, a half going to the even neighbour; sums of digits are found exactly, so no
hardware arithmetic is involved. `shortest` gives the fewest decimal digits that round back.
-/

namespace Pasteboard.Text

/-- The number `mantissa * 2 ^ exponent`, with the exponent at least -1074. -/
structure Binary64 where
  /-- A number below `2 ^ 53`. -/
  mantissa : Nat
  /-- The power of two. -/
  exponent : Int
  deriving DecidableEq, Repr

namespace Binary64

/-- The least exponent. -/
def minExponent : Int := -1074

/-- The greatest exponent. -/
def maxExponent : Int := 971

/-- The least mantissa of 53 bits: `2 ^ 52`. -/
def leadingBit : Nat := 4503599627370496

/-- `2 ^ n` as a factor of the numerator and of the denominator of a quotient. -/
def powers (n : Int) : Nat × Nat :=
  if 0 ≤ n then (Nat.pow 2 n.toNat, 1) else (1, Nat.pow 2 (-n).toNat)

/-- The exponent at which the mantissa of a quotient has 53 bits, or the least one. -/
def exponentFor (num den : Nat) : Int :=
  let guess : Int := (num.log2 : Int) - (den.log2 : Int) - 52
  let (up, down) := powers guess
  let e := if num * down < den * up * leadingBit then guess - 1 else guess
  max e minExponent

/-- The quotient of two numbers to the nearest integer, a half to the even one. -/
def roundQuotient (num den : Nat) : Nat :=
  let q := num / den
  let r := num % den
  if den < 2 * r || (den == 2 * r && q % 2 == 1) then q + 1 else q

/-- The number nearest to `num / den`; none if it is too large. -/
def round (num den : Nat) : Option Binary64 :=
  if num = 0 then some ⟨0, minExponent⟩
  else
    let e := exponentFor num den
    let (up, down) := powers e
    let m := roundQuotient (num * down) (den * up)
    let (m, e) := if m = 2 * leadingBit then (leadingBit, e + 1) else (m, e)
    if maxExponent < e then none else some ⟨m, e⟩

/-- The number as a quotient. -/
def ratio (x : Binary64) : Nat × Nat :=
  let (up, down) := powers x.exponent
  (x.mantissa * up, down)

/-- The product, rounded. -/
def mul (x y : Binary64) : Option Binary64 :=
  let (a, b) := x.ratio
  let (c, d) := y.ratio
  round (a * c) (b * d)

/-- The quotient, rounded. -/
def div (x y : Binary64) : Option Binary64 :=
  let (a, b) := x.ratio
  let (c, d) := y.ratio
  round (a * d) (b * c)

/-- Digits of a decimal numeral: the number is `digits * 10 ^ exponent`. -/
structure Decimal where
  /-- The digits as one number. -/
  digits : Nat
  /-- The power of ten. -/
  exponent : Int
  deriving DecidableEq, Repr

/-- `10 ^ n` as a factor of the numerator and of the denominator of a quotient. -/
def tens (n : Int) : Nat × Nat :=
  if 0 ≤ n then (Nat.pow 10 n.toNat, 1) else (1, Nat.pow 10 (-n).toNat)

/-- Whether the decimal lies in the interval of quotients that round to `x`. The interval is taken
at four times the precision of the mantissa: it reaches half a unit up, and half a unit down, or a
quarter where the next number below has a smaller exponent. -/
def within (x : Binary64) (d : Decimal) : Bool :=
  let lowerQuarter := x.mantissa = leadingBit ∧ minExponent < x.exponent
  let low := 4 * x.mantissa - (if lowerQuarter then 1 else 2)
  let high := 4 * x.mantissa + 2
  let (up, down) := powers (x.exponent - 2)
  let (tenUp, tenDown) := tens d.exponent
  let value := d.digits * tenUp * down
  let scale := up * tenDown
  if x.mantissa % 2 = 0 then low * scale ≤ value && value ≤ high * scale
  else low * scale < value && value < high * scale

/-- The distance of a decimal from `x`, over a denominator that depends on the exponents only. -/
def distance (x : Binary64) (d : Decimal) : Nat :=
  let (up, down) := powers x.exponent
  let (tenUp, tenDown) := tens d.exponent
  let a := d.digits * tenUp * down
  let b := x.mantissa * up * tenDown
  if a ≤ b then b - a else a - b

/-- The power of ten `k` with `10 ^ k ≤ num / den < 10 ^ (k + 1)`, searched downwards from `k`. -/
def magnitudeFrom (num den : Nat) : Nat → Int → Int
  | 0, k => k
  | fuel + 1, k =>
    let (up, down) := tens k
    if den * up ≤ num * down then k else magnitudeFrom num den fuel (k - 1)

/-- Of two neighbours on a grid, `below` and `above`, the nearer to `x`; halfway, the one whose
digits are even. -/
def nearer (x : Binary64) (below above : Decimal) : Decimal :=
  let down := distance x below
  let up := distance x above
  if up < down || (up == down && below.digits % 2 == 1) then above else below

/-- The nearer of the neighbours of `x` on the grid of `10 ^ k` that round back to `x`. -/
def onGrid (x : Binary64) (k : Int) : Option Decimal :=
  let (num, den) := x.ratio
  let (up, down) := tens k
  let q := (num * down) / (den * up)
  let below : Decimal := ⟨q, k⟩
  let above : Decimal := ⟨q + 1, k⟩
  match decide (0 < q) && within x below, within x above with
  | true, true => some (nearer x below above)
  | true, false => some below
  | false, true => some above
  | false, false => none

/-- The first grid, from the coarsest, that holds a decimal which rounds back. -/
def search (x : Binary64) (top : Int) : Nat → Decimal
  | 0 => ⟨x.mantissa, 0⟩
  | fuel + 1 =>
    match onGrid x (top - (17 - (fuel + 1 : Nat) : Int)) with
    | some d => d
    | none => search x top fuel

/-- Drops trailing zeros of the digits. -/
def normal : Nat → Decimal → Decimal
  | 0, d => d
  | fuel + 1, d =>
    if d.digits ≠ 0 ∧ d.digits % 10 = 0 then normal fuel ⟨d.digits / 10, d.exponent + 1⟩ else d

/-- The fewest digits that round back to `x`, and of those the nearest, a half going to even digits;
`x` is not zero. -/
def shortest (x : Binary64) : Decimal :=
  let (num, den) := x.ratio
  normal 20 (search x (magnitudeFrom num den 640 310) 17)

/-- Zeros. -/
def zeros (n : Nat) : String :=
  String.ofList (List.replicate n '0')

/-- A power of ten as an exponent is written: always with its sign. -/
def exponentText (n : Int) : String :=
  if 0 ≤ n then "+" ++ toString n else toString n

/-- The numeral of `x`: positional while the decimal point stands within sixteen digits or at most
four zeros follow it, with at least one digit after the point; otherwise with an exponent. -/
def text (x : Binary64) : String :=
  if x.mantissa = 0 then "0.0"
  else
    let d := x.shortest
    let digits := toString d.digits
    let length := digits.length
    let point : Int := length + d.exponent
    if 0 ≤ d.exponent ∧ point ≤ 16 then digits ++ zeros d.exponent.toNat ++ ".0"
    else if 0 < point ∧ point ≤ 16 then
      (String.ofList (digits.toList.take point.toNat)) ++ "." ++
        (String.ofList (digits.toList.drop point.toNat))
    else if -5 < point ∧ point ≤ 0 then "0." ++ zeros (-point).toNat ++ digits
    else
      let power := exponentText (point - 1)
      if length = 1 then digits ++ "e" ++ power
      else String.ofList (digits.toList.take 1) ++ "." ++ String.ofList (digits.toList.drop 1) ++
        "e" ++ power

end Binary64

end Pasteboard.Text
