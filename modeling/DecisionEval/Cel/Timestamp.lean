/-
Module: DecisionEval.Cel.Timestamp
Purpose: Points in time with an offset from UTC, in the Gregorian calendar: reading and text.
Main exports: Timestamp, Timestamp.parse?, Timestamp.text, Timestamp.order, Timestamp.add?, Timestamp.since
-/
import DecisionEval.Cel.Duration

namespace DecisionEval.Cel

/-- A point in time: seconds since the start of 1970 in UTC, nanoseconds above them (a billion more within
    a leap second), and the offset in seconds with which it is written. -/
structure Timestamp where
  seconds : Int
  nanoseconds : Nat
  offset : Int
deriving Repr, DecidableEq, Inhabited

namespace Timestamp

/-!
### The calendar

Years are counted from the first of March, so that a leap day ends its year, in eras of 400 years.
-/

/-- The days of an era of 400 years. -/
def eraDays : Int := 146097

/-- The days from the start of era zero, in March of the year 0, to the start of 1970. -/
def epochDays : Int := 719468

/-- The days since the start of 1970 of a date. -/
def daysOfDate (year month day : Int) : Int :=
  let year := if month ≤ 2 then year - 1 else year
  let era := year.fdiv 400
  let yearOfEra := year - era * 400
  let dayOfYear := (153 * (if month > 2 then month - 3 else month + 9) + 2) / 5 + day - 1
  let dayOfEra := yearOfEra * 365 + yearOfEra / 4 - yearOfEra / 100 + dayOfYear
  era * eraDays + dayOfEra - epochDays

/-- The year, month and day of a number of days since the start of 1970. -/
def dateOfDays (days : Int) : Int × Int × Int :=
  let shifted := days + epochDays
  let era := shifted.fdiv eraDays
  let dayOfEra := shifted - era * eraDays
  let yearOfEra := (dayOfEra - dayOfEra / 1460 + dayOfEra / 36524 - dayOfEra / 146096) / 365
  let dayOfYear := dayOfEra - (365 * yearOfEra + yearOfEra / 4 - yearOfEra / 100)
  let monthIndex := (5 * dayOfYear + 2) / 153
  let day := dayOfYear - (153 * monthIndex + 2) / 5 + 1
  let month := if monthIndex < 10 then monthIndex + 3 else monthIndex - 9
  (yearOfEra + era * 400 + (if month ≤ 2 then 1 else 0), month, day)

/-- The number of days of a month. -/
def daysOfMonth (year month : Nat) : Nat :=
  if month = 2 then
    if year % 4 = 0 ∧ (year % 100 ≠ 0 ∨ year % 400 = 0) then 29 else 28
  else if month = 4 ∨ month = 6 ∨ month = 9 ∨ month = 11 then 30 else 31

/-!
### Text
-/

/-- Decimal digits, filled with zeros on the left to a least width. -/
def padded (width n : Nat) : List Char :=
  let digits := Nat.toDigits 10 n
  List.replicate (width - digits.length) '0' ++ digits

/-- A fraction of a second in three, six or nine digits, as many as it needs; none if it is zero. -/
def fractionText (nanoseconds : Nat) : List Char :=
  if nanoseconds = 0 then []
  else if nanoseconds % 1000000 = 0 then '.' :: padded 3 (nanoseconds / 1000000)
  else if nanoseconds % 1000 = 0 then '.' :: padded 6 (nanoseconds / 1000)
  else '.' :: padded 9 nanoseconds

/-- A year; one outside four digits has a sign. -/
def yearText (year : Int) : List Char :=
  if 0 ≤ year ∧ year ≤ 9999 then padded 4 year.toNat
  else (if year < 0 then '-' else '+') :: padded 4 year.natAbs

/-- The text of a point in time: date, time and offset. -/
def text (t : Timestamp) : String :=
  let shown := t.seconds + t.offset
  let (year, month, day) := dateOfDays (shown.fdiv 86400)
  let clock := (shown.fmod 86400).toNat
  let leap := t.nanoseconds / 1000000000
  let offset := t.offset.natAbs
  String.ofList (yearText year ++ ['-'] ++ padded 2 month.toNat ++ ['-'] ++ padded 2 day.toNat ++ ['T']
    ++ padded 2 (clock / 3600) ++ [':'] ++ padded 2 (clock / 60 % 60) ++ [':']
    ++ padded 2 (clock % 60 + leap) ++ fractionText (t.nanoseconds % 1000000000)
    ++ [if t.offset < 0 then '-' else '+'] ++ padded 2 (offset / 3600) ++ [':']
    ++ padded 2 (offset / 60 % 60))

/-!
### Reading
-/

/-- Reads a number of exactly `count` digits. -/
def readDigits? (count : Nat) (cs : List Char) : Option (Nat × List Char) :=
  let digits := cs.take count
  if digits.length = count ∧ digits.all Char.isDigit then
    some (Numeral.digitsValue 0 digits, cs.drop count)
  else none

/-- Reads one of the given characters. -/
def readOneOf? (allowed : List Char) : List Char → Option (List Char)
  | c :: rest => if allowed.contains c then some rest else none
  | [] => none

/-- Reads an optional fraction of a second; digits behind the ninth are dropped. -/
def readFraction? : List Char → Option (Nat × List Char)
  | '.' :: rest =>
    match rest.span Char.isDigit with
    | ([], _) => none
    | (digits, rest) =>
      let kept := digits.take 9
      some (Numeral.digitsValue 0 kept * tenTo (9 - kept.length), rest)
  | cs => some (0, cs)

/-- Reads an offset in seconds at the end of a text: `Z`, or a sign, hours and minutes. -/
def readOffset? : List Char → Option Int
  | ['Z'] => some 0
  | ['z'] => some 0
  | sign :: rest => do
    let negative ← if sign = '+' then some false else if sign = '-' ∨ sign = '\u2212' then some true else none
    let (hours, rest) ← readDigits? 2 rest
    let rest ← readOneOf? [':'] rest
    let (minutes, rest) ← readDigits? 2 rest
    if hours ≤ 23 ∧ minutes ≤ 59 ∧ rest = [] then
      let seconds : Int := hours * 3600 + minutes * 60
      some (if negative then -seconds else seconds)
    else none
  | [] => none

/-- Reads a point in time: date, time, optional fraction and offset. Why a text is none is not said. -/
def parse? (written : String) : Option Timestamp := do
  let (year, rest) ← readDigits? 4 written.toList
  let rest ← readOneOf? ['-'] rest
  let (month, rest) ← readDigits? 2 rest
  let rest ← readOneOf? ['-'] rest
  let (day, rest) ← readDigits? 2 rest
  let rest ← readOneOf? ['T', 't', ' '] rest
  let (hour, rest) ← readDigits? 2 rest
  let rest ← readOneOf? [':'] rest
  let (minute, rest) ← readDigits? 2 rest
  let rest ← readOneOf? [':'] rest
  let (second, rest) ← readDigits? 2 rest
  let (fraction, rest) ← readFraction? rest
  let offset ← readOffset? rest
  if 1 ≤ month ∧ month ≤ 12 ∧ 1 ≤ day ∧ day ≤ daysOfMonth year month ∧ hour ≤ 23 ∧ minute ≤ 59
      ∧ second ≤ 60 then
    let clock : Int := hour * 3600 + minute * 60 + min second 59
    some ⟨daysOfDate year month day * 86400 + clock - offset,
      fraction + (if second = 60 then 1000000000 else 0), offset⟩
  else none

/-!
### Order and arithmetic

A leap second comes after the last ordinary second of its minute and before the next one. It has the number
of that ordinary second, and shows only in its nanoseconds.
-/

/-- The order of points in time: a point within a leap second lies before the second that follows. -/
def order (a b : Timestamp) : Ordering :=
  (compare a.seconds b.seconds).then (compare a.nanoseconds b.nanoseconds)

/-- Whether two points in time are the same, in whatever offsets they are written. -/
def same (a b : Timestamp) : Bool := a.seconds == b.seconds && a.nanoseconds == b.nanoseconds

/-- Whether a point in time lies within a leap second. -/
def isLeap (t : Timestamp) : Bool := Duration.second ≤ t.nanoseconds

/-- The nanoseconds since the start of 1970. A leap second takes up those of the second after it. -/
def instant (t : Timestamp) : Int := t.seconds * Duration.second + t.nanoseconds

/-- The first second of the calendar, in the year -262143. -/
def firstSecond : Int := -8334601228800

/-- The last second of the calendar, in the year 262142. -/
def lastSecond : Int := 8210266876799

/-- The point in time, outside of leap seconds, of a number of nanoseconds since the start of 1970; absent
    outside the calendar. -/
def ofInstant? (offset instant : Int) : Option Timestamp :=
  let seconds := instant.fdiv Duration.second
  if firstSecond ≤ seconds ∧ seconds ≤ lastSecond then
    some ⟨seconds, (instant.fmod Duration.second).toNat, offset⟩
  else none

/-- The point in time a number of nanoseconds later, in the same offset; absent outside the calendar. Steps
    within a leap second, and from it into the second before, move the fraction alone. A step forwards that
    leaves a leap second passes it in no time. -/
def add? (t : Timestamp) (nanoseconds : Int) : Option Timestamp :=
  let fraction := t.nanoseconds + nanoseconds
  if t.isLeap then
    if 2 * Duration.second ≤ fraction then ofInstant? t.offset (t.instant + nanoseconds - Duration.second)
    else if nanoseconds ≤ -(Duration.second : Int) then ofInstant? t.offset (t.instant + nanoseconds)
    else some ⟨t.seconds, fraction.toNat, t.offset⟩
  else ofInstant? t.offset (t.instant + nanoseconds)

/-- The second of the day in UTC. -/
def secondOfDay (t : Timestamp) : Int := t.seconds.fmod 86400

/-- The seconds that are to be counted for leap seconds in the span from one point in time to another. A leap
    second counts if the other point has the later time of day; the dates do not matter. -/
def leapSeconds (t earlier : Timestamp) : Int :=
  if earlier.isLeap && earlier.secondOfDay < t.secondOfDay then 1
  else if t.isLeap && t.secondOfDay < earlier.secondOfDay then -1
  else 0

/-- The span from an earlier point in time to this one. -/
def since (t earlier : Timestamp) : Duration :=
  ⟨t.instant - earlier.instant + t.leapSeconds earlier * Duration.second⟩

end Timestamp

end DecisionEval.Cel
