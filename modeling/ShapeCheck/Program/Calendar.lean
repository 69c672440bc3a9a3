import ShapeCheck.Instant

/-!
# Dates of a program

The format of dates that a program runs with: the date of the Gregorian calendar, extended without
end in both directions, and the time of day. Leap seconds have the number 60.
-/

namespace ShapeCheck.Calendar

/-- A day of the calendar. The year zero is the year before the year one. -/
structure Day where
  year : Int
  month : Nat
  day : Nat
deriving DecidableEq, Repr

/-- The day that lies this many days after 1 January 1970. Eras of 400 years have equally many
days. A year is counted from March, so that the leap day is its last day and months of 30 and 31
days follow one rule. -/
def Day.ofNumber (number : Int) : Day :=
  let shifted := number + 719468
  let era := shifted.fdiv 146097
  let dayOfEra := (shifted.fmod 146097).toNat
  let yearOfEra := (dayOfEra - dayOfEra / 1460 + dayOfEra / 36524 - dayOfEra / 146096) / 365
  let dayOfYear := dayOfEra - (365 * yearOfEra + yearOfEra / 4 - yearOfEra / 100)
  let monthFromMarch := (5 * dayOfYear + 2) / 153
  let day := dayOfYear - (153 * monthFromMarch + 2) / 5 + 1
  let month := if monthFromMarch < 10 then monthFromMarch + 3 else monthFromMarch - 9
  let year := era * 400 + yearOfEra
  ⟨if month ≤ 2 then year + 1 else year, month, day⟩

/-- Decimal digits, with zeros in front up to a width. -/
def padded (width n : Nat) : String :=
  let digits := Nat.toDigits 10 n
  String.ofList (List.replicate (width - digits.length) '0' ++ digits)

/-- Years from 0 to 9999 have four digits; others have a sign in front. -/
def yearText (year : Int) : String :=
  if year < 0 then "-" ++ padded 4 year.natAbs
  else if 9999 < year then "+" ++ padded 4 year.natAbs
  else padded 4 year.natAbs

/-- The fraction of a second with three, six or nine digits, the fewest that lose nothing. -/
def fractionText (nanos : Nat) : String :=
  if nanos = 0 then ""
  else if nanos % 1000000 = 0 then "." ++ padded 3 (nanos / 1000000)
  else if nanos % 1000 = 0 then "." ++ padded 6 (nanos / 1000)
  else "." ++ padded 9 nanos

/-- Date, time of day and the offset of universal time. -/
def text (instant : Instant) : String :=
  let day := Day.ofNumber (instant.seconds.fdiv 86400)
  let second := (instant.seconds.fmod 86400).toNat
  yearText day.year ++ "-" ++ padded 2 day.month ++ "-" ++ padded 2 day.day
    ++ "T" ++ padded 2 (second / 3600) ++ ":" ++ padded 2 (second / 60 % 60)
    ++ ":" ++ padded 2 (second % 60 + instant.nanos / 1000000000)
    ++ fractionText (instant.nanos % 1000000000) ++ "+00:00"

instance dateFormat : DateFormat := ⟨text⟩

/-- A count of nanoseconds from outside. Beyond a leap second it starts again. -/
instance nanosOfNat : Coe Nat (Fin 2000000000) := ⟨Fin.ofNat 2000000000⟩

example : text ⟨0, 0⟩ = "1970-01-01T00:00:00+00:00" := by decide +kernel

example : text ⟨951782400, 1000⟩ = "2000-02-29T00:00:00.000001+00:00" := by decide +kernel

example : text ⟨1483228799, 1500000000⟩ = "2016-12-31T23:59:60.500+00:00" := by decide +kernel

end ShapeCheck.Calendar
