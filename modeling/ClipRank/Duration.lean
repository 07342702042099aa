import ClipRank.Text.Digit
import ClipRank.Scalar

/-!
Lengths of videos: ISO 8601 durations such as `PT1H2M3S`, and the clock form in
which a length is shown.
-/

namespace ClipRank.Duration

/-- The largest 64-bit word, at which lengths stop growing. -/
def limit : Nat := Nat.pow 2 64 - 1

/-- The value of a run of digits of any script. A run that holds other than ASCII
digits, or whose value exceeds a word, counts as 0. -/
def runValue (digits : List Char) : Nat :=
  if digits.all Char.isDigit then
    let value := digits.foldl (fun value digit => value * 10 + (digit.toNat - '0'.toNat)) 0
    if value ≤ limit then value else 0
  else 0

/-- A run of digits before a unit, if the text starts with that, and what follows.
A part that is missing counts as 0. -/
def readPart (unit : Char) (text : List Char) : Nat × List Char :=
  let run := text.takeWhile Text.isDecimalDigit
  match text.dropWhile Text.isDecimalDigit with
  | c :: rest => if run ≠ [] ∧ c = unit then (runValue run, rest) else (0, text)
  | [] => (0, text)

/-- The seconds of days, hours, minutes and seconds, at most the limit. -/
def seconds (days hours minutes rest : Nat) : Nat :=
  let capped (value : Nat) : Nat := min value limit
  capped (capped (capped (capped (days * 86400) + capped (hours * 3600)) + capped (minutes * 60)) + rest)

/-- The seconds of a duration with all parts optional, if the text is one. -/
def read? (text : List Char) : Option Nat :=
  match text with
  | 'P' :: rest =>
    let (days, rest) := readPart 'D' rest
    let rest := match rest with
      | 'T' :: rest => rest
      | rest => rest
    let (hours, rest) := readPart 'H' rest
    let (minutes, rest) := readPart 'M' rest
    let (secs, rest) := readPart 'S' rest
    if rest = [] then some (seconds days hours minutes secs) else none
  | _ => none

/-- The seconds of a text. Anything that is no duration is 0. -/
def parse (text : String) : Nat :=
  (read? (Text.trimEnd (Text.trimStart text.toList))).getD 0

/-- A number of two digits. -/
def twoDigits (value : Nat) : List Char :=
  if value < 10 then '0' :: Nat.toDigits 10 value else Nat.toDigits 10 value

/-- `45s`, `4:05` or `1:02:03`. -/
def clock (seconds : Nat) : String :=
  if seconds < 60 then String.ofList (Nat.toDigits 10 seconds ++ ['s'])
  else
    let hours := seconds / 3600
    let minutes := seconds % 3600 / 60
    let rest := ':' :: twoDigits (seconds % 60)
    if 0 < hours then String.ofList (Nat.toDigits 10 hours ++ ':' :: twoDigits minutes ++ rest)
    else String.ofList (Nat.toDigits 10 minutes ++ rest)

open Scalar in
/-- A video of at most a minute is short. One of unknown length, which is 0, is not. -/
def isShort {α : Type} [Scalar α] (seconds : α) : Bool :=
  lt zero seconds && le seconds 60.0

end ClipRank.Duration
