import ResourceMoves.Number.Digits

/-!
# Instants

Moments of universal time, and their text in the format of RFC 3339.  Days are counted in the
Gregorian calendar, also before it was introduced; a year that has not four digits is written with a
sign.
-/

namespace ResourceMoves

/-- A moment: seconds since the beginning of 1970, and nanoseconds after that. -/
structure Instant where
  seconds : Int
  nanos   : Nat

/-- A day of the calendar. -/
structure Date where
  year  : Int
  month : Nat
  day   : Nat
  deriving DecidableEq

namespace Date

/-- The date of a day that is counted from the first of January 1970.  Years are taken to begin in
March, so that a leap day is the last day of its year. -/
def ofDays (days : Int) : Date :=
  let z := days + 719468
  let era := z.fdiv 146097
  let dayOfEra := (z.fmod 146097).toNat
  let yearOfEra := (dayOfEra - dayOfEra / 1460 + dayOfEra / 36524 - dayOfEra / 146096) / 365
  let dayOfYear := dayOfEra - (365 * yearOfEra + yearOfEra / 4 - yearOfEra / 100)
  let marchMonth := (5 * dayOfYear + 2) / 153
  let month := if marchMonth < 10 then marchMonth + 3 else marchMonth - 9
  { year  := era * 400 + yearOfEra + if month ≤ 2 then 1 else 0
    month := month
    day   := dayOfYear - (153 * marchMonth + 2) / 5 + 1 }

/-- The year: four digits, or a sign and at least four digits. -/
def yearText (year : Int) : List Char :=
  if 0 ≤ year ∧ year ≤ 9999 then Number.padded 4 year.toNat
  else (if year < 0 then '-' else '+') :: Number.padded 4 year.natAbs

/-- The date with hyphens between its parts. -/
def text (d : Date) : List Char :=
  yearText d.year ++ '-' :: Number.padded 2 d.month ++ '-' :: Number.padded 2 d.day

end Date

namespace Instant

/-- The day of the instant, counted from the first of January 1970. -/
def days (t : Instant) : Int := t.seconds.fdiv 86400

/-- The calendar's years that have a text. -/
def yearIsWritable (year : Int) : Bool := -262143 ≤ year && year ≤ 262142

/-- The instant has a text: its year is not too far away, and its nanoseconds are less than a
second. -/
def isWritable (t : Instant) : Bool :=
  yearIsWritable (Date.ofDays t.days).year && t.nanos < Number.pow10 9

/-- The fraction of a second, in three, six or nine digits; none when it is zero. -/
def fractionText (nanos : Nat) : List Char :=
  if nanos = 0 then []
  else if nanos % Number.pow10 6 = 0 then '.' :: Number.padded 3 (nanos / Number.pow10 6)
  else if nanos % Number.pow10 3 = 0 then '.' :: Number.padded 6 (nanos / Number.pow10 3)
  else '.' :: Number.padded 9 nanos

/-- The instant as date, time of day and offset. -/
def text (t : Instant) : String :=
  let second := (t.seconds.fmod 86400).toNat
  let clock := Number.padded 2 (second / 3600) ++ ':' :: Number.padded 2 (second / 60 % 60) ++
    ':' :: Number.padded 2 (second % 60)
  .ofList <| (Date.ofDays t.days).text ++ 'T' :: clock ++ fractionText t.nanos ++
    ['+', '0', '0', ':', '0', '0']

example : text ⟨1714564800, 0⟩ = "2024-05-01T12:00:00+00:00" := by decide +kernel
example : text ⟨-62135596801, 1000⟩ = "0000-12-31T23:59:59.000001+00:00" := by decide +kernel

end Instant

end ResourceMoves
