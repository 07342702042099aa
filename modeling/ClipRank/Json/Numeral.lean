import ClipRank.Json.Basic
import ClipRank.Binary64.Numeral

/-!
Number literals of JSON text and their values. A literal without point and
exponent is a whole number if it fits. Any other value is computed from a
significand of one word and a power of ten by one multiplication or division, so
it can differ from the nearest double in its last place. A literal beyond the
range of doubles has no value.
-/

namespace ClipRank.Json

open Binary64 (digitsValue)

structure Numeral where
  negative : Bool
  whole : List Char
  /-- The digits after the point. -/
  fraction : Option (List Char)
  /-- The digits after the mark, and whether a minus stands before them. -/
  exponent : Option (Bool × List Char)

namespace Numeral

/-- Takes digits into a significand as long as it fits a word. Also gives the
number of digits taken. -/
def absorb (significand : Nat) : List Char → Nat × Nat
  | [] => (significand, 0)
  | digit :: rest =>
    let next := significand * 10 + (digit.toNat - '0'.toNat)
    if next < Nat.pow 2 64 then
      let (final, taken) := absorb next rest
      (final, taken + 1)
    else (significand, 0)

def powerOfTen (exponent : Nat) : Float :=
  Float.ofScientific 1 false exponent

/-- Divides by a power of ten, in steps of at most `10 ^ 308`. -/
def scaleDown (value : Float) (exponent : Nat) : Float :=
  if exponent ≤ 308 then value / powerOfTen exponent
  else if value == 0.0 then value
  else scaleDown (value / powerOfTen 308) (exponent - 308)
termination_by exponent

/-- The double computed for `significand * 10 ^ exponent`, if it is finite. -/
def scale? (significand : Nat) (exponent : Int) : Option Float :=
  let value := significand.toUInt64.toFloat
  if exponent < 0 then some (scaleDown value exponent.natAbs)
  else if exponent ≤ 308 then
    let scaled := value * powerOfTen exponent.toNat
    if scaled.isFinite then some scaled else none
  else if significand = 0 then some value else none

/-- The size of a literal with a point or an exponent. An exponent that does not
fit 31 bits leaves only zero in range, or sends the value to zero. -/
def real? (significand : Nat) (scale : Int) : Option (Bool × List Char) → Option Float
  | none => scale? significand scale
  | some (negative, digits) =>
    let size := digitsValue digits
    if size < Nat.pow 2 31 then scale? significand (if negative then scale - size else scale + size)
    else if significand ≠ 0 ∧ !negative then none
    else some 0.0

/-- The value of a literal, if it is in range. A negative zero is a double. -/
def value? (numeral : Numeral) : Option Number :=
  let (significand, taken) := absorb 0 numeral.whole
  let dropped := numeral.whole.length - taken
  let signed (value : Float) : Number := .real (if numeral.negative then -value else value)
  match numeral.fraction, numeral.exponent, dropped with
  | none, none, 0 =>
    if !numeral.negative then some (.unsigned significand.toUInt64)
    else if 0 < significand ∧ significand ≤ Nat.pow 2 63 then some (.negative significand.toUInt64)
    else some (.real (-significand.toUInt64.toFloat))
  | fraction, exponent, dropped =>
    let (significand, taken) := absorb significand (fraction.getD [])
    (real? significand ((dropped : Int) - taken) exponent).map signed

end Numeral

/-- The longest number literal at the start of a text, and what follows it. A
whole part has no needless zero, and a point and an exponent mark are each
followed by a digit. -/
def readNumeral? (text : List Char) : Option (Numeral × List Char) :=
  let (negative, text) := match text with
    | '-' :: rest => (true, rest)
    | rest => (false, rest)
  let whole := text.takeWhile Char.isDigit
  let rest := text.dropWhile Char.isDigit
  if whole = [] ∨ (whole.head? = some '0' ∧ 1 < whole.length) then none
  else
    match readFraction? rest with
    | none => none
    | some (fraction, rest) => (readPower? rest).map fun (exponent, rest) => (⟨negative, whole, fraction, exponent⟩, rest)
where
  readFraction? : List Char → Option (Option (List Char) × List Char)
    | '.' :: rest =>
      let digits := rest.takeWhile Char.isDigit
      if digits = [] then none else some (some digits, rest.dropWhile Char.isDigit)
    | rest => some (none, rest)
  readPower? : List Char → Option (Option (Bool × List Char) × List Char)
    | [] => some (none, [])
    | mark :: rest =>
      if mark = 'e' ∨ mark = 'E' then
        let (negative, rest) := Binary64.splitSign rest
        let digits := rest.takeWhile Char.isDigit
        if digits = [] then none else some (some (negative, digits), rest.dropWhile Char.isDigit)
      else some (none, mark :: rest)

end ClipRank.Json
