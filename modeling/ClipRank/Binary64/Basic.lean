/-!
A finite double is a sign, a whole mantissa and a power of two, and every exact
question about it (its order, its nearest whole number, its decimal digits) is
asked of those three. The operations here use only the arithmetic that has a
definition in the logic, so they can be evaluated inside a proof.
-/

namespace ClipRank.Binary64

/-- The value `± mantissa * 2 ^ exponent`. -/
structure Parts where
  negative : Bool
  mantissa : Nat
  exponent : Int
deriving Repr, DecidableEq

/-- Whether the sign bit is set. It is for `-0.0`, and can be for a NaN. -/
def isNegative (x : Float) : Bool :=
  Nat.pow 2 63 ≤ x.toBits.toNat

/-- The parts of a finite double. The exponent field 0 marks the subnormals,
which share the least exponent and have no hidden leading bit. -/
def parts (x : Float) : Parts :=
  let bits := x.toBits.toNat
  let field : Nat := bits / Nat.pow 2 52 % Nat.pow 2 11
  let fraction : Nat := bits % Nat.pow 2 52
  if field = 0 then ⟨isNegative x, fraction, -1074⟩
  else ⟨isNegative x, fraction + Nat.pow 2 52, (field : Int) - 1075⟩

/-- A key whose order is the total order of doubles: negative NaN, -∞, the
finite values with -0.0 below 0.0, ∞, NaN. The sign bit makes a pattern count
backwards from below zero. -/
def orderKey (x : Float) : Int :=
  let bits := x.toBits.toNat
  if bits < Nat.pow 2 63 then bits else Nat.pow 2 63 - 1 - (bits : Int)

/-- The total order of doubles. -/
def totalOrder (x y : Float) : Ordering :=
  compare (orderKey x) (orderKey y)

/-- The nearest whole number, a half going away from zero. From `2 ^ 52` on every
double is whole already. The sign is kept on a result of zero. -/
def round (x : Float) : Float :=
  if x.abs < 4503599627370496.0 then
    let whole := x.abs.toUInt64.toFloat
    let size := if x.abs - whole < 0.5 then whole else whole + 1.0
    if isNegative x then -size else size
  else x

/-- A finite double with no fractional part. -/
def isWhole (x : Float) : Bool :=
  x.isFinite && (4503599627370496.0 ≤ x.abs || x.abs.toUInt64.toFloat == x.abs)

/-- Negative infinity, positive infinity and a quiet NaN. -/
def negativeInfinity : Float := -1.0 / 0.0

@[inherit_doc negativeInfinity] def infinity : Float := 1.0 / 0.0

@[inherit_doc negativeInfinity] def nan : Float := 0.0 / 0.0

end ClipRank.Binary64
