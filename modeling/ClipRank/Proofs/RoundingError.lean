import ClipRank.Proofs.Magnitudes
import ClipRank.Proofs.SignedDoubles

/-! How far a result is from the number it stands for. It is off by a step of the doubles
at most, and a sum by a part of itself, however small its terms are: the doubles have the
least of them as a common step, so the last digits of a sum that is small are not lost. -/

namespace ClipRank.Proofs.RoundingError
open Float.Model (Format UnpackedFloat)
open Float.Model.UnpackedFloat DoubleValue WholeDoubles Rounding Magnitudes SignedDoubles

variable {x y : Float} {p q r number size : ℚ}

/-- A result is less than a step away from the number, if the doubles go on in such steps
beyond it. -/
theorem near_step (near : Near x number) {exponent : Int} (least : -1074 ≤ exponent) (most : exponent ≤ 971)
    (low : 0 ≤ number) (high : number < (2 ^ 53 - 1) * 2 ^ exponent) :
    ∃ value, value? x = some value ∧ |value - number| ≤ 2 ^ exponent := by
  have unit : (0 : ℚ) < 2 ^ exponent := by positivity
  obtain ⟨count, isCount⟩ : ∃ count, count = ⌊number / 2 ^ exponent⌋₊ := ⟨_, rfl⟩
  have below : (count : ℚ) * 2 ^ exponent ≤ number := by
    rw [← le_div_iff₀ unit, isCount]
    exact Nat.floor_le (by positivity)
  have above : number < ((count + 1 : Nat) : ℚ) * 2 ^ exponent := by
    rw [← div_lt_iff₀ unit, isCount]
    exact_mod_cast Nat.lt_floor_add_one (number / 2 ^ exponent)
  have short : count + 1 < 2 ^ 53 := by
    have room : (count : ℚ) < 2 ^ 53 - 1 := lt_of_mul_lt_mul_right (below.trans_lt high) unit.le
    have whole : ((count + 1 : Nat) : ℚ) < (2 ^ 53 : Nat) := by push_cast; linarith
    exact_mod_cast whole
  obtain ⟨_, step⟩ := exists_double (by omega : count < 2 ^ 53) least most
  obtain ⟨_, next⟩ := exists_double short least most
  obtain ⟨value, found, first, last⟩ := near.bounded step next below above.le
  refine ⟨value, found, abs_le.mpr ?_⟩
  push_cast at above last
  constructor <;> linarith

section Sum

/-- Rounding loses less than the last digit that is kept. -/
private theorem placed_error {extended : ExtendedMantissa} {exponent : Int} (placed : Placed extended exponent size) :
    |extended.roundedMantissa * 2 ^ exponent - size| ≤ 2 ^ exponent := by
  have unit : (0 : ℚ) < 2 ^ exponent := by positivity
  have up : (extended.roundedMantissa : ℚ) ≤ extended.mantissa + 1 := by
    exact_mod_cast (Leaves.rounded_le extended).1
  have kept : (extended.mantissa : ℚ) ≤ extended.roundedMantissa := by exact_mod_cast Leaves.rounded_ge extended
  have low := placed.leaves.low
  have high := placed.leaves.high
  have scaled : extended.roundedMantissa * 2 ^ exponent - size =
      (extended.roundedMantissa - size / 2 ^ exponent) * 2 ^ exponent := by
    field_simp
  rw [scaled, abs_mul, abs_of_pos unit]
  apply mul_le_of_le_one_left unit.le
  rw [abs_le]
  constructor <;> linarith

private theorem placed_whole {extended : ExtendedMantissa} {exponent whole : Int}
    (placed : Placed extended exponent size) (same : size = whole * 2 ^ exponent) (natural : 0 ≤ size) :
    (extended.roundedMantissa : ℚ) * 2 ^ exponent = size := by
  have unit : (0 : ℚ) < 2 ^ exponent := by positivity
  have steps : 0 ≤ whole := by
    rw [same] at natural
    exact_mod_cast nonneg_of_mul_nonneg_left natural unit
  obtain ⟨count, rfl⟩ := Int.eq_ofNat_of_zero_le steps
  have number : size / 2 ^ exponent = count := by
    rw [same, Int.cast_natCast]
    exact mul_div_cancel_right₀ _ unit.ne'
  obtain ⟨below, above⟩ := placed.leaves.bounds count
  rw [number] at below above
  rw [le_antisymm (above le_rfl) (below le_rfl), same, Int.cast_natCast]

private theorem add_placed (first : value? x = some p) (second : value? y = some q) (positive : 0 < p)
    (otherPositive : 0 < q) (sum : value? (x + y) = some r) :
    ∃ (extended : ExtendedMantissa) (exponent : Int), Placed extended exponent (p + q) ∧
      r = extended.roundedMantissa * 2 ^ exponent := by
  obtain ⟨whole, exponent, same, unpacked⟩ := add_finite first second positive.ne' otherPositive.ne'
  have unit : (0 : ℚ) < 2 ^ exponent := by positivity
  have above : 0 < whole := by
    have size : (0 : ℚ) < whole * 2 ^ exponent := same ▸ add_pos positive otherPositive
    exact_mod_cast pos_of_mul_pos_left size unit.le
  have cast : ((whole.toNat : Nat) : ℚ) = whole := by exact_mod_cast Int.toNat_of_nonneg above.le
  unfold Float.Model.UnpackedFloat.normalize at unpacked
  rw [compare_gt_iff_gt.mpr above] at unpacked
  obtain ⟨_, _, rounding, leaves, filled⟩ := round_leaves .positive (by omega : 0 < whole.toNat) exponent
  obtain ⟨extended, lifted, placed, stands⟩ := round_stands .positive leaves filled
  dsimp only at unpacked
  rw [← rounding, ← unpacked] at stands
  rw [cast, same] at placed
  refine ⟨extended, lifted, placed, ?_⟩
  rcases stands with finite | ⟨infinite, _⟩
  · simpa [Sign.apply] using Option.some.inj (sum.symm.trans finite)
  · rw [value?, infinite] at sum
    cases sum

/-- A sum of doubles is off by a part of itself: no digits of a double lie below the least. -/
theorem add_error (first : value? x = some p) (second : value? y = some q) (natural : 0 ≤ p) (otherNatural : 0 ≤ q)
    (sum : value? (x + y) = some r) : |r - (p + q)| ≤ (p + q) / 2 ^ 52 := by
  have exactly (same : r = p + q) : |r - (p + q)| ≤ (p + q) / 2 ^ 52 := by
    rw [same, sub_self, abs_zero]
    positivity
  have near := near_add first second
  rcases natural.eq_or_lt with rfl | positive
  · rw [zero_add] at near exactly ⊢
    exact exactly (Option.some.inj (sum.symm.trans (near.value second)))
  rcases otherNatural.eq_or_lt with rfl | otherPositive
  · rw [add_zero] at near exactly ⊢
    exact exactly (Option.some.inj (sum.symm.trans (near.value first)))
  obtain ⟨extended, exponent, placed, result⟩ := add_placed first second positive otherPositive sum
  rcases placed.filled with large | rfl
  · rw [result]
    apply (placed_error placed).trans
    rw [le_div_iff₀ (by positivity), mul_comm]
    exact large
  · obtain ⟨terms, firstTerms⟩ := multiple first
    obtain ⟨others, otherTerms⟩ := multiple second
    have steps : p + q = ((terms + others : Int) : ℚ) * 2 ^ (-1074 : Int) := by
      rw [firstTerms, otherTerms, Int.cast_add, add_mul]
    exact exactly (result.trans (placed_whole placed steps (add_nonneg natural otherNatural)))

end Sum

end ClipRank.Proofs.RoundingError
