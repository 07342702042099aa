import ClipRank.Text.Blank
import ClipRank.Binary64.Numeral

/-!
Instants in universal time. The day is counted from 1970-01-01 in the Gregorian
calendar, extended to all years. A leap second is the last second of its minute
with a whole second of nanoseconds on top.
-/

namespace ClipRank

structure Timestamp where
  day : Int
  /-- The second of the day. -/
  second : Nat
  nanosecond : Nat
deriving Repr, DecidableEq

namespace Timestamp

/-- The years that have timestamps. -/
def firstYear : Int := -262143

@[inherit_doc firstYear] def lastYear : Int := 262142

/-- The days before the first of a month in a year that begins in March. With
March first, the day that a leap year adds is the last of the year. -/
def daysBeforeMonth (month : Nat) : Nat :=
  (153 * ((month + 9) % 12) + 2) / 5

/-- The day of a date that need not exist in the calendar. -/
def dayOfDate (year : Int) (month day : Nat) : Int :=
  let year := if month ≤ 2 then year - 1 else year
  365 * year + year.fdiv 4 - year.fdiv 100 + year.fdiv 400 + daysBeforeMonth month + (day - 1 : Int) - 719468

def isLeapYear (year : Int) : Bool :=
  year % 4 = 0 && (year % 100 ≠ 0 || year % 400 = 0)

def daysInMonth (year : Int) (month : Nat) : Nat :=
  if month = 2 then (if isLeapYear year then 29 else 28)
  else if month = 4 ∨ month = 6 ∨ month = 9 ∨ month = 11 then 30
  else 31

/-- The year, month and day of the month of a day. -/
def dateOfDay (day : Int) : Int × Nat × Nat :=
  let shifted := day + 719468
  let era := shifted.fdiv 146097
  let dayOfEra := (shifted - era * 146097).toNat
  let yearOfEra := (dayOfEra - dayOfEra / 1460 + dayOfEra / 36524 - dayOfEra / 146096) / 365
  let dayOfYear := dayOfEra - (365 * yearOfEra + yearOfEra / 4 - yearOfEra / 100)
  let monthIndex := (5 * dayOfYear + 2) / 153
  let month := if monthIndex < 10 then monthIndex + 3 else monthIndex - 9
  let year := era * 400 + yearOfEra
  (if month ≤ 2 then year + 1 else year, month, dayOfYear - (153 * monthIndex + 2) / 5 + 1)

/-- The seconds and nanoseconds from one instant to another. A leap second between
the two counts as one second more. -/
def elapsed (start finish : Timestamp) : Int × Int :=
  let seconds : Int := (finish.second : Int) - start.second
  let leap : Int :=
    if start.second < finish.second ∧ 1000000000 ≤ start.nanosecond then 1
    else if finish.second < start.second ∧ 1000000000 ≤ finish.nanosecond then -1
    else 0
  let nanoseconds : Int := (finish.nanosecond : Int) - start.nanosecond
  ((finish.day - start.day) * 86400 + seconds + leap + nanoseconds.fdiv 1000000000, nanoseconds.fmod 1000000000)

/-- The whole days from one instant to another, never negative. -/
def daysBetween (start finish : Timestamp) : Nat :=
  (elapsed start finish).1.toNat / 86400

inductive Fault where
  | outOfRange
  | impossible
  | invalid
  | tooShort
  | tooLong
deriving DecidableEq

namespace Fault

def message : Fault → String
  | outOfRange => "input is out of range"
  | impossible => "no possible date and time matching input"
  | invalid => "input contains invalid characters"
  | tooShort => "premature end of input"
  | tooLong => "trailing input"

end Fault

/-- One to `width` digits with a value of at most 63 bits. This and the other readers
give the text that follows as well. -/
def readDigits (width : Option Nat) (text : List Char) : Except Fault (Nat × List Char) :=
  let run := text.takeWhile Char.isDigit
  let digits := match width with
    | some width => run.take width
    | none => run
  if text = [] then .error .tooShort
  else if digits = [] then .error .invalid
  else
    let value := Binary64.digitsValue digits
    if value < Nat.pow 2 63 then .ok (value, text.drop digits.length) else .error .outOfRange

/-- A number of at most two digits, with blanks before it, in a range. -/
def readField (first last : Nat) (text : List Char) : Except Fault (Nat × List Char) := do
  let (value, rest) ← readDigits (some 2) (Text.trimStart text)
  if first ≤ value ∧ value ≤ last then return (value, rest) else .error .outOfRange

/-- A year of at most four digits, or of any number after a sign. -/
def readYear (text : List Char) : Except Fault (Int × List Char) := do
  let (year, rest) ← match Text.trimStart text with
    | '-' :: rest => (readDigits none rest).map fun (value, rest) => (-(value : Int), rest)
    | '+' :: rest => (readDigits none rest).map fun (value, rest) => ((value : Int), rest)
    | rest => (readDigits (some 4) rest).map fun (value, rest) => ((value : Int), rest)
  if -(Nat.pow 2 31) ≤ year ∧ year < Nat.pow 2 31 then return (year, rest) else .error .outOfRange

/-- One given character, with blanks before it. -/
def readMark (mark : Char) (text : List Char) : Except Fault (Unit × List Char) :=
  match Text.trimStart text with
  | [] => .error .tooShort
  | c :: rest => if c = mark then .ok ((), rest) else .error .invalid

/-- Nanoseconds after a point, or 0 without one. Digits after the ninth are passed
over. -/
def readFraction : List Char → Except Fault (Nat × List Char)
  | '.' :: rest => do
    let (value, after) ← readDigits (some 9) rest
    return (value * Nat.pow 10 (9 - (rest.length - after.length)), after.dropWhile Char.isDigit)
  | rest => .ok (0, rest)

/-- Two digits of which the first is at most `last`. A text is too short for them if it
has less than two bytes. -/
def readPair (last : Char) : List Char → Except Fault (Nat × List Char)
  | a :: b :: rest =>
    if a.isDigit ∧ b.isDigit then
      if a ≤ last then .ok (Binary64.digitsValue [a, b], rest) else .error .outOfRange
    else .error .invalid
  | [c] => .error (if c.utf8Size = 1 then .tooShort else .invalid)
  | [] => .error .tooShort

/-- Hours and minutes after a sign, as seconds. Colons and blanks may divide them. -/
def readOffsetSize (text : List Char) : Except Fault (Int × List Char) := do
  let (hours, rest) ← readPair '9' text
  let (minutes, rest) ← readPair '5' (rest.dropWhile fun c => c = ':' || Text.isBlank c)
  return ((hours * 3600 + minutes * 60 : Nat), rest)

/-- The distance of a local time from universal time, in seconds. -/
def readOffset (text : List Char) : Except Fault (Int × List Char) :=
  if (String.ofList (text.take 3)).map Char.toUpper = "UTC" then .ok (0, text.drop 3)
  else
    match text with
    | [] => .error .tooShort
    | c :: rest =>
      if c = 'Z' ∨ c = 'z' then .ok (0, rest)
      else if c = '+' then readOffsetSize rest
      else if c = '-' ∨ c = '−' then (readOffsetSize rest).map fun (offset, rest) => (-offset, rest)
      else .error .invalid

/-- The mark between date and time. -/
def readDivider : List Char → Except Fault (Unit × List Char)
  | [] => .error .tooShort
  | c :: rest => if c = 'T' ∨ c = 't' ∨ c = ' ' then .ok ((), rest) else .error .invalid

/-- Reads a date, a time of day with its seconds, and an offset. Single digits and
blanks between the parts are allowed. Second 60 is a leap second. -/
def parse (text : String) : Except Fault Timestamp := do
  let (year, rest) ← readYear text.toList
  let ((), rest) ← readMark '-' rest
  let (month, rest) ← readField 1 12 rest
  let ((), rest) ← readMark '-' rest
  let (day, rest) ← readField 1 31 rest
  let ((), rest) ← readDivider rest
  let (hour, rest) ← readField 0 23 rest
  let ((), rest) ← readMark ':' rest
  let (minute, rest) ← readField 0 59 rest
  let ((), rest) ← readMark ':' rest
  let (second, rest) ← readField 0 60 rest
  let (fraction, rest) ← readFraction rest
  let (offset, rest) ← readOffset (Text.trimStart rest)
  if Text.trimStart rest ≠ [] then throw .tooLong
  if year < firstYear ∨ lastYear < year ∨ daysInMonth year month < day then throw .outOfRange
  if 86400 ≤ offset.natAbs then throw .outOfRange
  let leap := second = 60
  let ofDay : Int := hour * 3600 + minute * 60 + (if leap then 59 else second) - offset
  let shifted := dayOfDate year month day + ofDay.fdiv 86400
  if shifted < dayOfDate firstYear 1 1 ∨ dayOfDate lastYear 12 31 < shifted then throw .impossible
  return ⟨shifted, (ofDay.fmod 86400).toNat, fraction + if leap then 1000000000 else 0⟩

/-- A number with zeros before it up to a width. -/
def padded (width value : Nat) : List Char :=
  let digits := Nat.toDigits 10 value
  List.replicate (width - digits.length) '0' ++ digits

/-- A year of four digits, or with a sign and at least four. -/
def renderYear (year : Int) : List Char :=
  if 0 ≤ year ∧ year ≤ 9999 then padded 4 year.toNat
  else (if year < 0 then '-' else '+') :: padded 4 year.natAbs

/-- The shortest of no, three, six and nine digits that is exact. -/
def renderFraction (nanosecond : Nat) : List Char :=
  if nanosecond = 0 then []
  else if nanosecond % 1000000 = 0 then '.' :: padded 3 (nanosecond / 1000000)
  else if nanosecond % 1000 = 0 then '.' :: padded 6 (nanosecond / 1000)
  else '.' :: padded 9 nanosecond

def renderChars (timestamp : Timestamp) : List Char :=
  let (year, month, day) := dateOfDay timestamp.day
  let second := timestamp.second % 60 + timestamp.nanosecond / 1000000000
  renderYear year ++ '-' :: padded 2 month ++ '-' :: padded 2 day ++
    'T' :: padded 2 (timestamp.second / 3600) ++ ':' :: padded 2 (timestamp.second / 60 % 60) ++
    ':' :: padded 2 second ++ renderFraction (timestamp.nanosecond % 1000000000) ++ ['Z']

def render (timestamp : Timestamp) : String :=
  String.ofList timestamp.renderChars

end Timestamp

end ClipRank
