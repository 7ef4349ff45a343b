import ApiForge.Properties
/-
# ApiForge.CommandLine.Clock -- dates from a count of nanoseconds

A moment is counted from the start of 1970 in universal time.  Its date is written as
`2024-02-29T12:00:00.5+00:00` with as many digits behind the point as thousands of a
second, of a millisecond or of a microsecond need: three, six, nine, or none.
-/

namespace ApiForge.Clock

set_option autoImplicit false

/-- A number in decimal with zeros in front of it. -/
def padded (width n : Nat) : String :=
  let digits := Nat.toDigits 10 n
  String.ofList (List.replicate (width - digits.length) '0' ++ digits)

/-- A day of the calendar. -/
structure Day where
  year : Nat
  month : Nat
  day : Nat
deriving DecidableEq

/-- The day that lies so many days after the first of January 1970.  Years are counted
from March, so that a leap day comes last: 146097 days make 400 years. -/
def dayAfter (count : Nat) : Day :=
  let shifted := count + 719468
  let era := shifted / 146097
  let inEra := shifted % 146097
  let yearOfEra := (inEra - inEra / 1460 + inEra / 36524 - inEra / 146096) / 365
  let inYear := inEra - (365 * yearOfEra + yearOfEra / 4 - yearOfEra / 100)
  let fromMarch := (5 * inYear + 2) / 153
  let month := if fromMarch < 10 then fromMarch + 3 else fromMarch - 9
  { year := yearOfEra + era * 400 + (if month ≤ 2 then 1 else 0)
    month := month
    day := inYear - (153 * fromMarch + 2) / 5 + 1 }

/-- A part of a second. -/
def fractionText (nanoseconds : Nat) : String :=
  if nanoseconds = 0 then ""
  else if nanoseconds % 1000000 = 0 then "." ++ padded 3 (nanoseconds / 1000000)
  else if nanoseconds % 1000 = 0 then "." ++ padded 6 (nanoseconds / 1000)
  else "." ++ padded 9 nanoseconds

/-- The moment so many nanoseconds after the start of 1970. -/
def moment (nanoseconds : Nat) : Moment :=
  let seconds := nanoseconds / 1000000000
  let day := dayAfter (seconds / 86400)
  let year := padded 4 day.year
  let inDay := seconds % 86400
  { date := year ++ "-" ++ padded 2 day.month ++ "-" ++ padded 2 day.day ++ "T"
      ++ padded 2 (inDay / 3600) ++ ":" ++ padded 2 (inDay / 60 % 60) ++ ":"
      ++ padded 2 (inDay % 60) ++ fractionText (nanoseconds % 1000000000) ++ "+00:00"
    year := year }

end ApiForge.Clock
