import ClusterKeeper.Data.Wire
import ClusterKeeper.Text.Blank
import ClusterKeeper.Text.Numeral
/-!
Timestamps in RFC 3339 form.

A timestamp is a point in time, counted in whole seconds of UTC since the first of January 1970. It
is read with any offset from UTC, fractions of a second are dropped, and it is written in UTC. What
is read need not be in the strict form: numbers may be short, and white space may stand before the
numbers and marks.
-/

namespace ClusterKeeper

/-- A date of the Gregorian calendar. -/
structure CivilDate where
  year : Int
  month : Nat
  day : Nat
  deriving Repr, DecidableEq

namespace CivilDate

/-- Whether a year has a 29th of February. -/
def isLeapYear (year : Int) : Bool :=
  (year % 4 == 0 && year % 100 != 0) || year % 400 == 0

def daysInMonth (year : Int) (month : Nat) : Nat :=
  if month = 2 then (if isLeapYear year then 29 else 28)
  else if month = 4 ∨ month = 6 ∨ month = 9 ∨ month = 11 then 30
  else 31

/-- The first year of the calendar. -/
def firstYear : Int := -262143

/-- The last year of the calendar. -/
def lastYear : Int := 262142

/-- Whether the calendar has such a day. -/
def exists? (d : CivilDate) : Bool :=
  decide (firstYear ≤ d.year) && decide (d.year ≤ lastYear) &&
    1 ≤ d.month && d.month ≤ 12 && 1 ≤ d.day && d.day ≤ daysInMonth d.year d.month

/-- The days from the first of March of year zero to 1970. -/
def epochDays : Int := 719468

/-- Days since 1970. Years are taken to begin in March, so that the leap day ends one. -/
def toDays (d : CivilDate) : Int :=
  let year := if d.month ≤ 2 then d.year - 1 else d.year
  let era := year / 400
  let yearOfEra := year % 400
  let monthFromMarch : Int := ((d.month : Int) + 9) % 12
  let dayOfYear := (153 * monthFromMarch + 2) / 5 + d.day - 1
  era * 146097 + yearOfEra * 365 + yearOfEra / 4 - yearOfEra / 100 + dayOfYear - epochDays

/-- The date of a day counted since 1970. -/
def ofDays (days : Int) : CivilDate :=
  let shifted := days + epochDays
  let era := shifted / 146097
  let dayOfEra := shifted % 146097
  let yearOfEra :=
    (dayOfEra - dayOfEra / 1460 + dayOfEra / 36524 - dayOfEra / 146096) / 365
  let dayOfYear := dayOfEra - (365 * yearOfEra + yearOfEra / 4 - yearOfEra / 100)
  let monthFromMarch := (5 * dayOfYear + 2) / 153
  let day := dayOfYear - (153 * monthFromMarch + 2) / 5 + 1
  let month := if monthFromMarch < 10 then monthFromMarch + 3 else monthFromMarch - 9
  ⟨yearOfEra + era * 400 + (if month ≤ 2 then 1 else 0), month.toNat, day.toNat⟩

end CivilDate

/-- A point in time. -/
structure Timestamp where
  /-- Seconds since 1970; a leap second shares the number of the second before it. -/
  seconds : Int
  leapSecond : Bool
  deriving Repr, DecidableEq

namespace Timestamp

/-- What follows the white space at the head of a text. -/
def skipBlank (text : List Char) : List Char := text.dropWhile Text.isBlank

/-- Reads as many digits as there are, up to a count; one is needed. -/
def digits? (most : Nat) (text : List Char) : Option (Nat × List Char) :=
  let taken := (text.take most).takeWhile Char.isDigit
  if taken.isEmpty then none
  else some (taken.foldl (fun n c => n * 10 + Text.Numeral.digitValue c) 0, text.drop taken.length)

/-- Reads a number of two digits at most, possibly behind white space. -/
def number? (text : List Char) : Option (Nat × List Char) := digits? 2 (skipBlank text)

/-- Reads a year, possibly behind white space: four digits at most, or any number behind a sign. -/
def year? (text : List Char) : Option (Int × List Char) :=
  match skipBlank text with
  | '-' :: rest => (digits? rest.length rest).map fun read => (-(read.1 : Int), read.2)
  | '+' :: rest => (digits? rest.length rest).map fun read => (read.1, read.2)
  | text => (digits? 4 text).map fun read => (read.1, read.2)

/-- Reads a mark, possibly behind white space. -/
def mark? (mark : Char) (text : List Char) : Option (List Char) :=
  match skipBlank text with
  | c :: rest => if c = mark then some rest else none
  | [] => none

/-- Reads what stands between a date and a time of day. -/
def separator? : List Char → Option (List Char)
  | c :: rest => if c = 'T' ∨ c = 't' ∨ c = ' ' then some rest else none
  | [] => none

/-- Drops a fraction of a second: a point and one digit at least. -/
def dropFraction? : List Char → Option (List Char)
  | '.' :: rest =>
      if (rest.takeWhile Char.isDigit).isEmpty then none else some (rest.dropWhile Char.isDigit)
  | text => some text

/-- Reads two digits. -/
def twoDigits? : List Char → Option (Nat × List Char)
  | c :: d :: rest =>
      if c.isDigit ∧ d.isDigit then
        some (Text.Numeral.digitValue c * 10 + Text.Numeral.digitValue d, rest)
      else none
  | _ => none

/-- The number of seconds by which a local time is ahead of UTC: hours and minutes, with colons or
white space between them. -/
def shift? (text : List Char) : Option (Int × List Char) := do
  let (hours, rest) ← twoDigits? text
  let (minutes, rest) ← twoDigits? (rest.dropWhile fun c => c = ':' || Text.isBlank c)
  if hours < 24 ∧ minutes < 60 then some (((hours * 3600 + minutes * 60 : Nat) : Int), rest) else none

/-- Whether a text begins with the name of UTC, in either case. -/
def namesUtc (text : List Char) : Bool := (text.take 3).map Char.toUpper == ['U', 'T', 'C']

/-- Reads the offset from UTC in seconds, possibly behind white space. -/
def offset? (text : List Char) : Option (Int × List Char) :=
  let text := skipBlank text
  if namesUtc text then some (0, text.drop 3)
  else match text with
    | [] => none
    | sign :: rest =>
        if sign = 'Z' ∨ sign = 'z' then some (0, rest)
        else if sign = '+' then shift? rest
        else if sign = '-' ∨ sign = '\u2212' then (shift? rest).map fun read => (-read.1, read.2)
        else none

/-- Reads a timestamp. -/
def readChars? (text : List Char) : Option Timestamp := do
  let (year, rest) ← year? text
  let rest ← mark? '-' rest
  let (month, rest) ← number? rest
  let rest ← mark? '-' rest
  let (day, rest) ← number? rest
  let rest ← separator? rest
  let (hour, rest) ← number? rest
  let rest ← mark? ':' rest
  let (minute, rest) ← number? rest
  let rest ← mark? ':' rest
  let (second, rest) ← number? rest
  let rest ← dropFraction? rest
  let (offset, rest) ← offset? rest
  let date : CivilDate := ⟨year, month, day⟩
  if date.exists? ∧ hour < 24 ∧ minute < 60 ∧ second ≤ 60 ∧ skipBlank rest = [] then
    let ofDay : Int := ((hour * 3600 + minute * 60 + min second 59 : Nat) : Int)
    some ⟨date.toDays * 86400 + ofDay - offset, second == 60⟩
  else none

/-- A number with that many digits at least. -/
def padded (width n : Nat) : String :=
  let digits := toString n
  String.ofList (List.replicate (width - digits.length) '0') ++ digits

/-- A year: four digits at least, with a sign in front of those that four digits cannot give. -/
def yearText (year : Int) : String :=
  let sign := if year < 0 then "-" else if year ≤ 9999 then "" else "+"
  sign ++ padded 4 year.natAbs

def write (t : Timestamp) : String :=
  let date := CivilDate.ofDays (t.seconds / 86400)
  let ofDay := (t.seconds % 86400).toNat
  let second := ofDay % 60 + (if t.leapSecond then 1 else 0)
  yearText date.year ++ "-" ++ padded 2 date.month ++ "-" ++ padded 2 date.day ++ "T" ++
    padded 2 (ofDay / 3600) ++ ":" ++ padded 2 (ofDay / 60 % 60) ++ ":" ++ padded 2 second ++ "Z"

instance : Formed Timestamp := ⟨.text⟩

instance : Wire Timestamp where
  encode t := .text t.write
  decode v := do
    let text : String ← decode v
    match readChars? text.toList with
    | some t => .ok t
    | none => .error (.expected "a timestamp")

example : readChars? "2024-01-02T03:04:05+02:00".toList = some ⟨1704157445, false⟩ := by
  decide +kernel

example : readChars? "2024- 1-2 3:4:5.9 UTC ".toList = some ⟨1704164645, false⟩ := by
  decide +kernel

end Timestamp

end ClusterKeeper
