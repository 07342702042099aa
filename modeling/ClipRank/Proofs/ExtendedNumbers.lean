import ClipRank.Proofs.ExactNumbers

/-! Exact numbers beside the infinities and NaN. These follow the rules of doubles, and
between numbers every operation is exact, so formulas can be read exactly without leaving
out what a double can be. There is one zero, and it divides like the positive one. -/

namespace ClipRank.Proofs.ExtendedNumbers
open Scalar Curve ExactNumbers

inductive Extended {K : Type} (exp log10 : K → K) where
  | number (value : Exact exp log10)
  | infinite (negative : Bool)
  | notANumber

namespace Extended
variable {K : Type} [Field K] [LinearOrder K] [FloorRing K] {exp log10 : K → K}

protected def neg : Extended exp log10 → Extended exp log10
  | number x => number (-x)
  | infinite negative => infinite (!negative)
  | notANumber => notANumber

protected def add : Extended exp log10 → Extended exp log10 → Extended exp log10
  | number x, number y => number (x + y)
  | infinite negative, infinite other => if negative = other then infinite negative else notANumber
  | infinite negative, number _ => infinite negative
  | number _, infinite negative => infinite negative
  | _, _ => notANumber

protected def mul : Extended exp log10 → Extended exp log10 → Extended exp log10
  | number x, number y => number (x * y)
  | infinite negative, infinite other => infinite (negative != other)
  | infinite negative, number x => if x = 0 then notANumber else infinite (negative != decide (x < 0))
  | number x, infinite negative => if x = 0 then notANumber else infinite (negative != decide (x < 0))
  | _, _ => notANumber

protected def div : Extended exp log10 → Extended exp log10 → Extended exp log10
  | number x, number y =>
    if y = 0 then if x = 0 then notANumber else infinite (decide (x < 0)) else number (x / y)
  | infinite negative, number x => infinite (negative != decide (x < 0))
  | number _, infinite _ => number 0
  | _, _ => notANumber

/-- The infinities are the ends of the order, and NaN stands behind them. -/
protected def order : Extended exp log10 → Extended exp log10 → Ordering
  | number x, number y => Scalar.order x y
  | infinite negative, infinite other => compare other negative
  | infinite negative, number _ => if negative then .lt else .gt
  | number _, infinite negative => if negative then .gt else .lt
  | notANumber, notANumber => .eq
  | notANumber, _ => .gt
  | _, notANumber => .lt

protected def isNaN : Extended exp log10 → Bool
  | notANumber => true
  | _ => false

/-- No comparison with NaN holds. -/
protected def compares (test : Ordering → Bool) (x y : Extended exp log10) : Bool :=
  !x.isNaN && !y.isNaN && test (x.order y)

instance : Scalar (Extended exp log10) where
  add := Extended.add
  sub x y := x.add y.neg
  mul := Extended.mul
  div := Extended.div
  neg := Extended.neg
  ofScientific mantissa negative exponent := number (OfScientific.ofScientific mantissa negative exponent)
  ofCount word := number (ofCount word)
  lt := Extended.compares Ordering.isLT
  le := Extended.compares Ordering.isLE
  isFinite
    | number _ => true
    | _ => false
  isNaN := Extended.isNaN
  exp
    | number x => number (Scalar.exp x)
    | infinite negative => if negative then number 0 else infinite false
    | notANumber => notANumber
  log10
    | number x => if x < 0 then notANumber else if x = 0 then infinite true else number (Scalar.log10 x)
    | infinite negative => if negative then notANumber else infinite false
    | notANumber => notANumber
  round
    | number x => number (Scalar.round x)
    | x => x
  toWord
    | number x => toWord x
    | infinite negative => if negative then 0 else 4294967295
    | notANumber => 0
  order := Extended.order

end Extended
open Extended

section Arithmetic
variable {K : Type} [Field K] [LinearOrder K] [FloorRing K] {exp log10 : K → K}
variable {x y low high : Exact exp log10}

theorem number_mul : (number x * number y : Extended exp log10) = number (x * y) :=
  rfl

theorem number_div (nonzero : y ≠ 0) : (number x / number y : Extended exp log10) = number (x / y) :=
  if_neg nonzero

theorem number_div_zero : (number x / number 0 : Extended exp log10) = if x = 0 then notANumber else infinite (decide (x < 0)) :=
  if_pos rfl

theorem zero_number : (zero : Extended exp log10) = number 0 :=
  congrArg number zero_eq

theorem lt_number : lt (number x : Extended exp log10) (number y) = true ↔ x < y := by
  change (compare x y).isLT = true ↔ x < y
  rw [Ordering.isLT_iff_eq_lt, compare_lt_iff_lt]

theorem le_number : le (number x : Extended exp log10) (number y) = true ↔ x ≤ y := by
  change (compare x y).isLE = true ↔ x ≤ y
  exact Ordering.ne_gt_iff_isLE.symm.trans compare_le_iff_le

theorem clamp_number : clamp (number low : Extended exp log10) (number high) (number x) = number (clamp low high x) := by
  unfold clamp
  simp only [lt_number, lt_iff]
  split_ifs <;> rfl

theorem round1_number : round1 (number x : Extended exp log10) = number (round1 x) := by
  have ten : (10.0 : Exact exp log10) ≠ 0 := by norm_num
  exact number_div ten

theorem sum_numbers (values : List (Exact exp log10)) :
    sum (values.map (number : _ → Extended exp log10)) = number values.sum := by
  have added (start : Exact exp log10) : (values.map (number : _ → Extended exp log10)).foldl (· + ·) (number start) =
      number (values.foldl (· + ·) start) := by
    induction values generalizing start with
    | nil => rfl
    | cons value rest ih => exact ih (start + value)
  rw [← sum_eq]
  exact added (-zero)

/-- What counts of a quantity. -/
def usable : Extended exp log10 → Exact exp log10
  | number x => max 0 x
  | _ => 0

omit [FloorRing K] in
theorem usable_nonneg (x : Extended exp log10) : 0 ≤ usable x := by
  cases x with
  | number x => exact le_max_left 0 x
  | infinite | notANumber => exact le_rfl

theorem positivePart_usable (x : Extended exp log10) : positivePart x = number (usable x) := by
  cases x with
  | number x =>
    rcases lt_or_ge 0 x with positive | negative
    · have counts : lt zero (number x : Extended exp log10) = true := by rwa [zero_number, lt_number]
      rw [usable, max_eq_right positive.le]
      exact if_pos counts
    · have nothing : ¬ lt zero (number x : Extended exp log10) = true := by rwa [zero_number, lt_number, not_lt]
      rw [usable, max_eq_left negative, ← zero_number]
      exact if_neg nothing
  | infinite | notANumber => exact zero_number

end Arithmetic

section Order
variable {K : Type} [Field K] [LinearOrder K] [IsStrictOrderedRing K] [FloorRing K] {exp log10 : K → K}

theorem usable_scaled (x : Extended exp log10) {factor : Exact exp log10} (positive : 0 < factor) :
    usable (x * number factor) = usable x * factor := by
  cases x with
  | number x =>
    rw [number_mul, usable, usable, max_mul_of_nonneg _ _ positive.le, zero_mul]
  | infinite negative =>
    have scaled : (infinite negative * number factor : Extended exp log10) = infinite (negative != decide (factor < 0)) :=
      if_neg positive.ne'
    rw [scaled]
    exact (zero_mul factor).symm
  | notANumber => exact (zero_mul factor).symm

/-- A ratio is the same after its terms are multiplied by one factor. Without a divisor it is
an infinity or NaN as before. -/
theorem ratio_scaled (x y : Exact exp log10) {factor : Exact exp log10} (positive : 0 < factor) :
    (number (x * factor) / number (y * factor) : Extended exp log10) = number x / number y := by
  by_cases nothing : y = 0
  · have sign : x * factor < 0 ↔ x < 0 := by simpa using mul_lt_mul_iff_left₀ (b := x) (c := 0) positive
    rw [nothing, zero_mul, number_div_zero, number_div_zero]
    simp only [mul_eq_zero, positive.ne', or_false, sign]
  · rw [number_div nothing, number_div (mul_ne_zero nothing positive.ne'), mul_div_mul_right _ _ positive.ne']

end Order

end ClipRank.Proofs.ExtendedNumbers
