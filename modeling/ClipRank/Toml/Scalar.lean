import ClipRank.Toml.Value
import ClipRank.Timestamp

/-!
TOML values written without quotes: truth values, numbers, dates and times.
-/

namespace ClipRank.Toml

/-- Digits with single underscores between them, without the underscores. -/
def digitGroups? (isDigit : Char → Bool) : List Char → Option (List Char)
  | [] => none
  | [c] => if isDigit c then some [c] else none
  | c :: '_' :: rest => if isDigit c then (digitGroups? isDigit rest).map (c :: ·) else none
  | c :: rest => if isDigit c then (digitGroups? isDigit rest).map (c :: ·) else none

/-- Digits of a decimal number, of which only a lone zero may come first. -/
def wholeDigits? (text : List Char) : Option (List Char) :=
  (digitGroups? Char.isDigit text).filter fun digits => digits.length = 1 || digits.head? != some '0'

def radixDigit? (radix : Nat) (c : Char) : Option Nat :=
  let value :=
    if c.isDigit then c.toNat - '0'.toNat
    else if 'a' ≤ c ∧ c ≤ 'f' then c.toNat - 'a'.toNat + 10
    else if 'A' ≤ c ∧ c ≤ 'F' then c.toNat - 'A'.toNat + 10
    else radix
  if value < radix then some value else none

/-- A whole number in a given radix. -/
def radixNumber? (radix : Nat) (text : List Char) : Option Int :=
  (digitGroups? (fun c => (radixDigit? radix c).isSome) text).map fun digits =>
    digits.foldl (fun (value : Int) c => value * radix + (radixDigit? radix c).getD 0) 0

def integer? (text : List Char) : Option Int :=
  match text with
  | '0' :: 'x' :: digits => radixNumber? 16 digits
  | '0' :: 'o' :: digits => radixNumber? 8 digits
  | '0' :: 'b' :: digits => radixNumber? 2 digits
  | text =>
    let (negative, digits) := Binary64.splitSign text
    (wholeDigits? digits).map fun digits =>
      let value : Int := Binary64.digitsValue digits
      if negative then -value else value

/-- A double in digits: a whole part, and after it a fraction, an exponent or both. -/
def decimal? (text : List Char) : Option (Option Float) := do
  let (negative, text) := Binary64.splitSign text
  let isMark (c : Char) : Bool := c = 'e' || c = 'E'
  let mantissa := text.takeWhile (!isMark ·)
  let exponent := text.dropWhile (!isMark ·)
  let whole ← wholeDigits? (mantissa.takeWhile (· ≠ '.'))
  let fraction ← match mantissa.dropWhile (· ≠ '.') with
    | [] => some []
    | _ :: digits => digitGroups? Char.isDigit digits
  let power ← match exponent with
    | [] => some 0
    | _ :: rest =>
      let (negative, digits) := Binary64.splitSign rest
      (digitGroups? Char.isDigit digits).map fun digits =>
        let size : Int := Binary64.digitsValue digits
        if negative then -size else size
  if fraction.isEmpty ∧ exponent.isEmpty then none
  else
    let size := Binary64.ofDecimal (Binary64.digitsValue (whole ++ fraction)) (power - fraction.length)
    some (if size.isFinite then some (if negative then -size else size) else none)

def float? (text : List Char) : Option (Option Float) :=
  let (negative, word) := Binary64.splitSign text
  let signed (value : Float) : Float := if negative then -value else value
  if word = "inf".toList then some (some (signed Binary64.infinity))
  else if word = "nan".toList then some (some (signed Binary64.nan))
  else decimal? text

/-- A number of exactly so many digits. -/
def fixedDigits? (count : Nat) (text : List Char) : Option (Nat × List Char) :=
  let digits := text.take count
  if digits.length = count ∧ digits.all Char.isDigit then some (Binary64.digitsValue digits, text.drop count)
  else none

def expect? (c : Char) : List Char → Option (List Char)
  | first :: rest => if first = c then some rest else none
  | [] => none

/-- A date at the start of a text, and what follows it. -/
def date? (text : List Char) : Option (List Char) := do
  let (year, rest) ← fixedDigits? 4 text
  let (month, rest) ← fixedDigits? 2 (← expect? '-' rest)
  let (day, rest) ← fixedDigits? 2 (← expect? '-' rest)
  if 1 ≤ month ∧ month ≤ 12 ∧ 1 ≤ day ∧ day ≤ Timestamp.daysInMonth year month then some rest else none

/-- The seconds of a time of day with their fraction, and what follows them. -/
def seconds? (text : List Char) : Option (List Char) := do
  let (second, rest) ← fixedDigits? 2 text
  if 61 ≤ second then none
  else
    match rest with
    | '.' :: rest => if (rest.head?.any Char.isDigit) then some (rest.dropWhile Char.isDigit) else none
    | rest => some rest

/-- A time of day at the start of a text, and what follows it. The seconds may be left
out. -/
def time? (text : List Char) : Option (List Char) := do
  let (hour, rest) ← fixedDigits? 2 text
  let (minute, rest) ← fixedDigits? 2 (← expect? ':' rest)
  if 24 ≤ hour ∨ 60 ≤ minute then none
  else
    match rest with
    | ':' :: rest => seconds? rest
    | rest => some rest

/-- Whether a text is an offset from universal time, or empty. -/
def isOffset : List Char → Bool
  | [] => true
  | ['Z'] | ['z'] => true
  | sign :: rest =>
    (sign = '+' || sign = '-') &&
      (match fixedDigits? 2 rest with
        | some (hour, ':' :: rest) =>
          match fixedDigits? 2 rest with
          | some (minute, []) => hour < 24 && minute < 60
          | _ => false
        | _ => false)

def isMoment (text : List Char) : Bool :=
  match date? text with
  | some [] => true
  | some (mark :: rest) =>
    (mark = 'T' || mark = 't' || mark = ' ') && (time? rest).any isOffset
  | none => time? text = some []

/-- The value of a text without quotes. -/
def scalar? (text : List Char) : Option Value :=
  if text = "true".toList then some (.boolean true)
  else if text = "false".toList then some (.boolean false)
  else
    match integer? text with
    | some value => some (.integer value)
    | none =>
      match float? text with
      | some value => some (.float value)
      | none => if isMoment text then some .moment else none

end ClipRank.Toml
