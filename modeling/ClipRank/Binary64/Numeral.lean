import ClipRank.Binary64.Basic

/-!
Doubles written as text: an optional sign, digits with an optional point, an
optional exponent, or the words for infinity and NaN in any case. The value is
the double nearest to the decimal, so a number too large is infinite.
-/

namespace ClipRank.Binary64

/-- The value of a run of ASCII digits. -/
def digitsValue (digits : List Char) : Nat :=
  digits.foldl (fun value digit => value * 10 + (digit.toNat - '0'.toNat)) 0

/-- A leading sign, and what follows it. -/
def splitSign : List Char → Bool × List Char
  | '-' :: rest => (true, rest)
  | '+' :: rest => (false, rest)
  | rest => (false, rest)

/-- The double nearest to `digits * 10 ^ exponent`. Outside of the range of
doubles the answer is known without forming the power. -/
def ofDecimal (digits : Nat) (exponent : Int) : Float :=
  let magnitude := exponent + (Nat.toDigits 10 digits).length
  if digits = 0 then 0.0
  else if 400 < magnitude then infinity
  else if magnitude < -400 then 0.0
  else Float.ofScientific digits (exponent < 0) exponent.natAbs

/-- The exponent after the mark `e`, or 0 if there is no mark. -/
def readExponent? : List Char → Option Int
  | [] => some 0
  | mark :: rest =>
    let (negative, digits) := splitSign rest
    if (mark = 'e' ∨ mark = 'E') ∧ digits ≠ [] ∧ digits.all Char.isDigit then
      let size : Int := digitsValue digits
      some (if negative then -size else size)
    else none

/-- A decimal without its sign: at least one digit, before or after the point. -/
def readMagnitude? (text : List Char) : Option Float :=
  let whole := text.takeWhile Char.isDigit
  let rest := text.dropWhile Char.isDigit
  let (fraction, rest) := match rest with
    | '.' :: rest => (rest.takeWhile Char.isDigit, rest.dropWhile Char.isDigit)
    | rest => ([], rest)
  if whole.isEmpty ∧ fraction.isEmpty then none
  else (readExponent? rest).map fun exponent =>
    ofDecimal (digitsValue (whole ++ fraction)) (exponent - fraction.length)

/-- The double that a text denotes, if it denotes one. -/
def read? (text : String) : Option Float :=
  let (negative, rest) := splitSign text.toList
  let word := String.ofList (rest.map Char.toLower)
  let size :=
    if word = "inf" ∨ word = "infinity" then some infinity
    else if word = "nan" then some nan
    else readMagnitude? rest
  size.map fun size => if negative then -size else size

end ClipRank.Binary64
