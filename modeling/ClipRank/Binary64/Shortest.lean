import ClipRank.Binary64.Basic

/-!
The shortest decimal that reads back as a given double, and its spelling. The
reals that round to `m * 2 ^ q` form an interval around it; the first decimal
grid with a point inside gives the digits, and of two such points the nearer
one. A `Layout` says where the digits are spelled positionally and where with
an exponent.
-/

namespace ClipRank.Binary64

/-- The decimal `digits * 10 ^ exponent`. -/
structure Decimal where
  digits : Nat
  exponent : Int
deriving Repr, DecidableEq

namespace Decimal

/-- The same decimal without zeros at the end of its digits. -/
def trim (decimal : Decimal) : Decimal :=
  go decimal.digits decimal
where
  go : Nat → Decimal → Decimal
    | 0, decimal => decimal
    | fuel + 1, decimal =>
      if decimal.digits % 10 = 0 ∧ decimal.digits ≠ 0 then
        go fuel ⟨decimal.digits / 10, decimal.exponent + 1⟩
      else decimal

end Decimal

/-- A power with a whole exponent of either sign, as a numerator and a
denominator one of which is 1. -/
def ratioPower (base : Nat) (exponent : Int) : Nat × Nat :=
  (Nat.pow base exponent.toNat, Nat.pow base (-exponent).toNat)

/-- The number of decimal digits before the point, less one: the `k` with
`10 ^ k ≤ num / den < 10 ^ (k + 1)`. The binary logarithm fixes it up to one,
and the comparison settles which. -/
def decimalMagnitude (num den : Nat) : Int :=
  let binary : Int := (num.log2 : Int) - (den.log2 : Int)
  let guess := (binary * 30103).fdiv 100000 - 1
  let reaches (k : Int) : Bool :=
    let (up, down) := ratioPower 10 k
    up * den ≤ num * down
  if reaches (guess + 2) then guess + 2 else if reaches (guess + 1) then guess + 1 else guess

/-- The point of the grid `10 ^ exponent` nearest to `num / den` among those for
which `inside` holds, if one of the two neighbours of the value is such a point.
A tie goes to the even digit. -/
def gridPoint? (num den : Nat) (exponent : Int) (inside : Nat → Bool) : Option Nat :=
  let (up, down) := ratioPower 10 exponent
  let lower := num * down / (den * up)
  let excess := 2 * (num * down % (den * up))
  let upper := lower + 1
  match inside lower, inside upper with
  | false, false => none
  | true, false => some lower
  | false, true => some upper
  | true, true =>
    if excess < den * up then some lower
    else if den * up < excess then some upper
    else if lower % 2 = 0 then some lower else some upper

/-- The shortest decimal that rounds to `mantissa * 2 ^ exponent`, which is not
zero. The interval of such reals is half a unit to either side, a quarter unit
below a power of two, and has its ends when the mantissa is even. -/
def shortestDecimal (mantissa : Nat) (exponent : Int) : Decimal :=
  let (up, down) := ratioPower 2 (exponent - 2)
  let num := 4 * mantissa * up
  let den := down
  let below := if mantissa = Nat.pow 2 52 ∧ -1074 < exponent then 1 else 2
  let low := (4 * mantissa - below) * up
  let high := (4 * mantissa + 2) * up
  let closed := mantissa % 2 = 0
  let magnitude := decimalMagnitude num den
  let attempt (count : Nat) : Option Decimal :=
    let grid := magnitude - count
    let (gridUp, gridDown) := ratioPower 10 grid
    let inside (point : Nat) : Bool :=
      let value := point * gridUp * den
      if closed then low * gridDown ≤ value ∧ value ≤ high * gridDown
      else low * gridDown < value ∧ value < high * gridDown
    (gridPoint? num den grid inside).map (⟨·, grid⟩)
  (((List.range 17).findSome? attempt).getD ⟨0, 0⟩).trim

/-- Where a number is spelled positionally: from `10 ^ least` up to, but not
including, `10 ^ bound`. -/
structure Layout where
  least : Int
  bound : Int

namespace Layout

/-- Digits with a point: the value is `0.digits * 10 ^ point`. A whole value
ends in `.0`. -/
def positional (digits : List Char) (point : Int) : List Char :=
  let count : Int := digits.length
  if point ≤ 0 then ['0', '.'] ++ List.replicate (-point).toNat '0' ++ digits
  else if count ≤ point then digits ++ List.replicate (point - count).toNat '0' ++ ['.', '0']
  else digits.take point.toNat ++ ['.'] ++ digits.drop point.toNat

/-- One digit, the others after a point, and the exponent with its sign. -/
def exponential (digits : List Char) (point : Int) : List Char :=
  let exponent := point - 1
  let sign := if exponent < 0 then '-' else '+'
  let fraction := if digits.length ≤ 1 then [] else '.' :: digits.drop 1
  digits.take 1 ++ fraction ++ 'e' :: sign :: Nat.toDigits 10 exponent.natAbs

/-- The spelling of a finite double. -/
def spell (layout : Layout) (x : Float) : String :=
  let ⟨negative, mantissa, exponent⟩ := parts x
  let sign := if negative then ['-'] else []
  if mantissa = 0 then String.ofList (sign ++ ['0', '.', '0'])
  else
    let decimal := shortestDecimal mantissa exponent
    let digits := Nat.toDigits 10 decimal.digits
    let point : Int := decimal.exponent + digits.length
    let plain := layout.least < point ∧ point ≤ layout.bound
    String.ofList (sign ++ if plain then positional digits point else exponential digits point)

end Layout

end ClipRank.Binary64
