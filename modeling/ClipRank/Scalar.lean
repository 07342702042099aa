import ClipRank.Binary64.Basic

/-!
The numbers that scores are computed in. Every formula of the scoring rules is
written over this interface, so that the same formula can be run on doubles and
read over exact numbers.
-/

namespace ClipRank

class Scalar (α : Type) extends Add α, Sub α, Mul α, Div α, Neg α, OfScientific α where
  ofCount : UInt64 → α
  lt : α → α → Bool
  le : α → α → Bool
  isFinite : α → Bool
  isNaN : α → Bool
  exp : α → α
  log10 : α → α
  /-- The nearest whole number, a half going away from zero. -/
  round : α → α
  /-- The whole part of a number that is not negative, at most the largest word. -/
  toWord : α → UInt32
  /-- A total order, by which scores are ranked. -/
  order : α → α → Ordering

namespace Scalar

variable {α : Type} [Scalar α]

def zero : α := 0.0

/-- The larger of a number and a bound. The bound stands in for a NaN. -/
def atLeast (bound x : α) : α :=
  if lt bound x then x else bound

/-- The smaller of a number and a bound. The bound stands in for a NaN. -/
def atMost (bound x : α) : α :=
  if lt x bound then x else bound

/-- The nearest point of an interval. A NaN stays a NaN. -/
def clamp (low high x : α) : α :=
  if lt x low then low else if lt high x then high else x

/-- A usable quantity: anything that is not positive and finite counts as 0. -/
def positivePart (x : α) : α :=
  if isFinite x && lt zero x then x else zero

theorem positivePart_idem (x : α) : positivePart (positivePart x) = positivePart x := by
  unfold positivePart
  by_cases usable : (isFinite x && lt zero x) = true
  · simp only [usable, if_true]
  · simp only [usable, if_false, Bool.false_eq_true, ite_self]

/-- A sum from left to right. It starts at negative zero, the neutral element
of addition on doubles. -/
def sum (terms : List α) : α :=
  terms.foldl (· + ·) (-zero)

end Scalar

instance : Scalar Float where
  ofCount := UInt64.toFloat
  lt := Float.lt
  le := Float.le
  isFinite := Float.isFinite
  isNaN := Float.isNaN
  exp := Float.exp
  log10 := Float.log10
  round := Binary64.round
  toWord := Float.toUInt32
  order := Binary64.totalOrder

end ClipRank
