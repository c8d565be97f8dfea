/-!
Points in time in the format of RFC 3339, in UTC and whole seconds.

Days are counted in the Gregorian calendar. A year outside 0 to 9999 is written with its sign and at
least four digits; a count of seconds that reaches beyond the calendar is written as a number.
-/

namespace Pasteboard.Text.Timestamp

/-- A day of the calendar. -/
structure Day where
  year : Int
  month : Nat
  day : Nat
  deriving DecidableEq, Repr

/-- The day that is `days` days after 1 January 1970. Years begin in March here, so that a leap day
is the last day of its year; 400 of them have 146097 days. -/
def Day.ofCount (days : Int) : Day :=
  let shifted := days + 719468
  let era := shifted / 146097
  let inEra := (shifted % 146097).toNat
  let yearOfEra := (inEra - inEra / 1460 + inEra / 36524 - inEra / 146096) / 365
  let inYear := inEra - (365 * yearOfEra + yearOfEra / 4 - yearOfEra / 100)
  let monthFromMarch := (5 * inYear + 2) / 153
  let day := inYear - (153 * monthFromMarch + 2) / 5 + 1
  let month := if monthFromMarch < 10 then monthFromMarch + 3 else monthFromMarch - 9
  ⟨era * 400 + yearOfEra + (if month ≤ 2 then 1 else 0), month, day⟩

/-- A number with at least `width` digits. -/
def padded (width n : Nat) : String :=
  let digits := toString n
  String.ofList (List.replicate (width - digits.length) '0') ++ digits

/-- The text of a year. -/
def yearText (y : Int) : String :=
  if 0 ≤ y ∧ y ≤ 9999 then padded 4 y.toNat
  else (if y < 0 then "-" else "+") ++ padded 4 y.natAbs

/-- The first second of the calendar. -/
def first : Int := -8334601228800

/-- The last second of the calendar. -/
def last : Int := 8210266876799

/-- The text of the time that is `seconds` seconds after the start of 1970. -/
def text (seconds : Int) : String :=
  if first ≤ seconds ∧ seconds ≤ last then
    let d := Day.ofCount (seconds / 86400)
    let s := (seconds % 86400).toNat
    yearText d.year ++ "-" ++ padded 2 d.month ++ "-" ++ padded 2 d.day ++ "T" ++
      padded 2 (s / 3600) ++ ":" ++ padded 2 (s / 60 % 60) ++ ":" ++ padded 2 (s % 60) ++ "Z"
  else toString seconds

end Pasteboard.Text.Timestamp
