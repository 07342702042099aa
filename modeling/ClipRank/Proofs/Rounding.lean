import ClipRank.Proofs.WholeDoubles

/-! The arithmetic of doubles rounds faithfully: no double lies strictly between an
exact result and the double that is computed for it. So a computed result keeps every
bound that is a double itself, and one that is bounded on both sides is finite. -/

namespace ClipRank.Proofs.Rounding
open Float.Model (Format UnpackedFloat totalExponent)
open Float.Model.UnpackedFloat DoubleValue WholeDoubles

private theorem mantissa_kept (mantissa : Nat) (accuracy : Accuracy) :
    (ExtendedMantissa.ofMantissaAndAccuracy mantissa accuracy).mantissa = mantissa := by
  cases accuracy with
  | exact => rfl
  | inexact order => cases order <;> rfl

/-- A mantissa that is left of a number when the bits below it are taken off. It is
the whole number just when none of these bits is set, and the first of them counts a
half. -/
structure Leaves (extended : ExtendedMantissa) (number : ℚ) : Prop where
  low : (extended.mantissa : ℚ) ≤ number
  high : number < extended.mantissa + 1
  whole : extended.roundBit = false ∧ extended.stickyBit = false ↔ number = extended.mantissa
  half : extended.roundBit = true ↔ extended.mantissa + 1 / 2 ≤ number

namespace Leaves
variable {extended : ExtendedMantissa} {number : ℚ}

theorem shiftRightOne (leaves : Leaves extended number) : Leaves extended.shiftRightOne (number / 2) := by
  obtain ⟨mantissa, roundBit, stickyBit⟩ := extended
  obtain ⟨low, high, whole, _⟩ := leaves
  have halves : (mantissa : ℚ) = 2 * (mantissa / 2 : Nat) + (mantissa % 2 : Nat) := by
    exact_mod_cast (Nat.div_add_mod mantissa 2).symm
  simp only at low high whole
  rcases Nat.mod_two_eq_zero_or_one mantissa with even | odd
  · rw [even, Nat.cast_zero, add_zero] at halves
    refine ⟨?_, ?_, ?_, ?_⟩
    · simp only [ExtendedMantissa.shiftRightOne]
      linarith
    · simp only [ExtendedMantissa.shiftRightOne]
      linarith
    · have doubled : number / 2 = (mantissa / 2 : Nat) ↔ number = mantissa := by
        rw [halves, div_eq_iff two_ne_zero, mul_comm]
      simp only [ExtendedMantissa.shiftRightOne, even, doubled, ← whole]
      simp
    · have below : number / 2 < (mantissa / 2 : Nat) + 1 / 2 := by linarith
      simpa [ExtendedMantissa.shiftRightOne, even] using below
  · rw [odd, Nat.cast_one] at halves
    refine ⟨?_, ?_, ?_, ?_⟩
    · simp only [ExtendedMantissa.shiftRightOne]
      linarith
    · simp only [ExtendedMantissa.shiftRightOne]
      linarith
    · have above : number / 2 ≠ (mantissa / 2 : Nat) := by
        apply ne_of_gt
        linarith
      simp [ExtendedMantissa.shiftRightOne, odd, above]
    · have reached : ((mantissa / 2 : Nat) : ℚ) + 1 / 2 ≤ number / 2 := by linarith
      simpa [ExtendedMantissa.shiftRightOne, odd] using reached

theorem shiftRight (leaves : Leaves extended number) (count : Nat) :
    Leaves (extended >>> count) (number / 2 ^ count) := by
  change Leaves (count.repeat ExtendedMantissa.shiftRightOne extended) _
  induction count with
  | zero => simpa [Nat.repeat] using leaves
  | succ count ih =>
    rw [pow_succ, ← div_div]
    exact ih.shiftRightOne

theorem rounded_ge (extended : ExtendedMantissa) : extended.mantissa ≤ extended.roundedMantissa := by
  obtain ⟨mantissa, _ | _, _ | _⟩ := extended <;>
    simp [ExtendedMantissa.roundedMantissa, ExtendedMantissa.accuracy, Accuracy.roundToNearestEven]

/-- Rounding goes up by at most one, and not at all if nothing is taken off. -/
theorem rounded_le (extended : ExtendedMantissa) :
    extended.roundedMantissa ≤ extended.mantissa + 1 ∧
      (extended.roundBit = false ∧ extended.stickyBit = false → extended.roundedMantissa = extended.mantissa) := by
  obtain ⟨mantissa, _ | _, _ | _⟩ := extended <;>
    simp [ExtendedMantissa.roundedMantissa, ExtendedMantissa.accuracy, Accuracy.roundToNearestEven]
  omega

/-- An odd mantissa is rounded up from the half on. -/
theorem rounded_up (leaves : Leaves extended number) (odd : extended.mantissa % 2 = 1) :
    extended.roundedMantissa = extended.mantissa + 1 ↔ extended.mantissa + 1 / 2 ≤ number := by
  rw [← leaves.half]
  obtain ⟨mantissa, _ | _, _ | _⟩ := extended <;>
    simp [ExtendedMantissa.roundedMantissa, ExtendedMantissa.accuracy, Accuracy.roundToNearestEven]
  exact odd

/-- A rounded mantissa keeps every whole bound. -/
theorem bounds (leaves : Leaves extended number) (bound : Nat) :
    ((bound : ℚ) ≤ number → bound ≤ extended.roundedMantissa) ∧
      (number ≤ bound → extended.roundedMantissa ≤ bound) := by
  obtain ⟨low, high, whole, _⟩ := leaves
  constructor
  · intro below
    have kept : bound < extended.mantissa + 1 := by exact_mod_cast below.trans_lt high
    exact (Nat.le_of_lt_succ kept).trans (rounded_ge extended)
  · intro above
    obtain ⟨next, kept⟩ := rounded_le extended
    by_cases bare : extended.roundBit = false ∧ extended.stickyBit = false
    · rw [kept bare]
      exact_mod_cast low.trans above
    · have strict : (extended.mantissa : ℚ) < number := lt_of_le_of_ne low fun same => bare (whole.mpr same.symm)
      have room : extended.mantissa < bound := by exact_mod_cast strict.trans_le above
      omega

theorem exactly (mantissa : Nat) : Leaves (.ofMantissaAndAccuracy mantissa .exact) mantissa :=
  ⟨le_rfl, lt_add_one _, by simp [ExtendedMantissa.ofMantissaAndAccuracy],
    by norm_num [ExtendedMantissa.ofMantissaAndAccuracy]⟩

theorem quotient (dividend : Nat) {divisor : Nat} (positive : 0 < divisor) :
    Leaves (.ofMantissaAndAccuracy (dividend / divisor) (accuracyOfFraction (dividend % divisor) divisor))
      (dividend / divisor : ℚ) := by
  have size : (0 : ℚ) < divisor := by exact_mod_cast positive
  have split : (dividend : ℚ) = divisor * (dividend / divisor : Nat) + (dividend % divisor : Nat) := by
    exact_mod_cast (Nat.div_add_mod dividend divisor).symm
  have rest : ((dividend % divisor : Nat) : ℚ) < divisor := by exact_mod_cast Nat.mod_lt dividend positive
  refine ⟨?_, ?_, ?_, ?_⟩
  · rw [mantissa_kept, le_div_iff₀ size, split, mul_comm]
    exact le_add_of_nonneg_right (Nat.cast_nonneg _)
  · rw [mantissa_kept, div_lt_iff₀ size, split]
    linarith
  · rw [mantissa_kept, div_eq_iff size.ne', mul_comm, split, add_eq_left, Nat.cast_eq_zero, accuracyOfFraction]
    by_cases divides : dividend % divisor = 0
    · simp [divides, ExtendedMantissa.ofMantissaAndAccuracy]
    · rw [if_neg divides]
      cases compare (2 * (dividend % divisor)) divisor <;> simp [divides, ExtendedMantissa.ofMantissaAndAccuracy]
  · have double : ((dividend / divisor : Nat) : ℚ) + 1 / 2 ≤ dividend / divisor ↔ divisor ≤ 2 * (dividend % divisor) := by
      rw [le_div_iff₀ size, split, ← Nat.cast_le (α := ℚ)]
      push_cast
      constructor <;> intro reached <;> linarith
    rw [mantissa_kept, double, accuracyOfFraction]
    by_cases divides : dividend % divisor = 0
    · simp [divides, positive.ne', ExtendedMantissa.ofMantissaAndAccuracy]
    · rw [if_neg divides]
      rcases lt_trichotomy (2 * (dividend % divisor)) divisor with below | middle | above
      · simp [compare_lt_iff_lt.mpr below, below, ExtendedMantissa.ofMantissaAndAccuracy]
      · simp [middle, ExtendedMantissa.ofMantissaAndAccuracy]
      · simp [compare_gt_iff_gt.mpr above, above.le, ExtendedMantissa.ofMantissaAndAccuracy]

end Leaves

section Round
variable {mantissa : Nat} {exponent : Int} {accuracy : Accuracy} {size : ℚ}

theorem two_pow_mul (count : Nat) (exponent : Int) : (2 : ℚ) ^ count * 2 ^ exponent = 2 ^ (count + exponent) := by
  rw [zpow_add₀ two_ne_zero, zpow_natCast]

/-- What is left of a size when the digits are taken off that a double cannot keep. -/
structure Placed (extended : ExtendedMantissa) (exponent : Int) (size : ℚ) : Prop where
  leaves : Leaves extended (size / 2 ^ exponent)
  short : size < 2 ^ 53 * 2 ^ exponent
  least : -1074 ≤ exponent
  filled : 2 ^ 52 * 2 ^ exponent ≤ size ∨ exponent = -1074

/-- Whether a mantissa has all the digits that a double can keep. -/
def Filled (mantissa : Nat) (exponent : Int) : Prop :=
  2 ^ 52 ≤ mantissa ∨ exponent ≤ -1074

theorem shift_placed (leaves : Leaves (.ofMantissaAndAccuracy mantissa accuracy) (size / 2 ^ exponent))
    (filled : Filled mantissa exponent) :
    ∃ extended lifted, shiftToTargetExponent .binary64 mantissa exponent accuracy = (extended, lifted) ∧
      Placed extended lifted size := by
  obtain ⟨target, isTarget⟩ : ∃ target, target = max ((mantissa.log2 : Int) + 1 + exponent - 53) (-1074) := ⟨_, rfl⟩
  have rises : exponent ≤ target := by
    rcases filled with highest | least
    · have log : 52 ≤ mantissa.log2 := (Nat.le_log2 (by omega)).mpr highest
      omega
    · omega
  obtain ⟨count, rfl⟩ := Int.le.dest rises
  have unit : (0 : ℚ) < 2 ^ exponent := by positivity
  refine ⟨ExtendedMantissa.ofMantissaAndAccuracy mantissa accuracy >>> count, exponent + count, ?_, ?_, ?_, by omega, ?_⟩
  · unfold shiftToTargetExponent shiftToExponent
    rw [target_eq, ← isTarget]
    dsimp only
    rw [add_sub_cancel_left, Int.toNat_natCast]
  · rw [zpow_add₀ two_ne_zero, zpow_natCast, ← div_div]
    exact leaves.shiftRight count
  · have above : ((mantissa + 1 : Nat) : ℚ) ≤ 2 ^ (mantissa.log2 + 1) := by exact_mod_cast Nat.lt_log2_self
    have high := leaves.high
    rw [mantissa_kept, div_lt_iff₀ unit] at high
    calc size < (mantissa + 1 : Nat) * 2 ^ exponent := by exact_mod_cast high
      _ ≤ 2 ^ (mantissa.log2 + 1) * 2 ^ exponent := by gcongr
      _ ≤ 2 ^ 53 * 2 ^ (exponent + count) := by
        rw [two_pow_mul, two_pow_mul]
        exact zpow_le_zpow_right₀ one_le_two (by push_cast; omega)
  · by_cases lowest : exponent + count = -1074
    · exact Or.inr lowest
    · left
      have positive : mantissa ≠ 0 := by
        rintro rfl
        rw [Nat.log2_zero] at isTarget
        unfold Filled at filled
        omega
      have below : ((2 ^ mantissa.log2 : Nat) : ℚ) ≤ mantissa := by exact_mod_cast Nat.log2_self_le positive
      have low := leaves.low
      rw [mantissa_kept, le_div_iff₀ unit] at low
      calc (2 : ℚ) ^ 52 * 2 ^ (exponent + count) = 2 ^ mantissa.log2 * 2 ^ exponent := by
            rw [two_pow_mul, two_pow_mul]
            congr 1
            push_cast
            omega
        _ = (2 ^ mantissa.log2 : Nat) * 2 ^ exponent := by rw [Nat.cast_pow, Nat.cast_two]
        _ ≤ mantissa * 2 ^ exponent := by gcongr
        _ ≤ size := low

/-- Rounding up can fill one digit more, which is a zero. -/
private theorem carry (short : mantissa ≤ 2 ^ 53) (least : -1074 ≤ exponent)
    (filled : 2 ^ 52 ≤ mantissa ∨ exponent = -1074) :
    ∃ kept lifted, shiftToTargetExponent .binary64 mantissa exponent .exact = (⟨kept, false, false⟩, lifted) ∧
      (kept : ℚ) * 2 ^ lifted = mantissa * 2 ^ exponent ∧ kept < 2 ^ 53 ∧ -1074 ≤ lifted ∧
      (2 ^ 52 ≤ kept ∨ lifted = -1074) := by
  rcases Nat.lt_or_eq_of_le short with fits | rfl
  · refine ⟨mantissa, exponent, shift_none ?_, rfl, fits, least, filled⟩
    rw [target_eq]
    rcases Nat.eq_zero_or_pos mantissa with rfl | positive
    · rw [Nat.log2_zero]
      omega
    · have log : mantissa.log2 < 53 := (Nat.log2_lt (by omega)).mpr fits
      omega
  · have log : (2 ^ 53 : Nat).log2 = 53 := Nat.log2_two_pow
    refine ⟨2 ^ 52, exponent + 1, ?_, ?_, by norm_num, by omega, Or.inl le_rfl⟩
    · have once : (max (((53 : Nat) : Int) + 1 + exponent - 53) (-1074) - exponent).toNat = 1 := by omega
      unfold shiftToTargetExponent shiftToExponent
      rw [target_eq, log]
      dsimp only
      rw [once]
      rfl
    · rw [zpow_add_one₀ two_ne_zero]
      push_cast
      ring

/-- A number of the given value, or an infinity in its place if it is too large. -/
def Stands (sign : Sign) (size : ℚ) (result : UnpackedFloat) : Prop :=
  unpacked? result = some (sign.apply 1 * size) ∨ result = .infinity sign ∧ 2 ^ 1024 ≤ size

private theorem pack_stands (sign : Sign) (positive : 0 < mantissa) (short : mantissa < 2 ^ 53) (least : -1074 ≤ exponent)
    (filled : 2 ^ 52 ≤ mantissa ∨ exponent = -1074) :
    Stands sign (mantissa * 2 ^ exponent)
      (unpack .binary64 (pack .binary64 (.finite sign mantissa exponent positive))) := by
  by_cases most : exponent ≤ 971
  · have canonical : Canonical (.finite sign mantissa exponent positive) := ⟨short, least, most, filled⟩
    rw [unpack_pack canonical]
    left
    cases sign <;> simp [unpacked?, Sign.apply]
  · have large : 2 ^ 11 ≤ (exponent + 1023 + 52).toNat + 1 := by omega
    refine Or.inr ⟨?_, ?_⟩
    · change unpack .binary64 (if 2 ^ 11 ≤ (exponent + 1023 + 52).toNat + 1 then packedInfinity .binary64 sign
        else _) = _
      rw [if_pos large]
      cases sign <;> rfl
    · have highest : ((2 ^ 52 : Nat) : ℚ) ≤ mantissa := by exact_mod_cast filled.resolve_right (by omega)
      calc (2 : ℚ) ^ 1024 = (2 ^ 52 : Nat) * 2 ^ (972 : Int) := by
            rw [zpow_ofNat, Nat.cast_pow, Nat.cast_two, ← pow_add]
        _ ≤ mantissa * 2 ^ exponent := by
          gcongr
          · exact one_le_two
          · omega

/-- Rounding gives the double of the rounded mantissa. -/
theorem placed_stands (sign : Sign) {extended : ExtendedMantissa} {lifted : Int}
    (first : shiftToTargetExponent .binary64 mantissa exponent accuracy = (extended, lifted))
    (placed : Placed extended lifted size) :
    Stands sign (extended.roundedMantissa * 2 ^ lifted)
      (unpack .binary64 (pack .binary64 (roundWithAccuracy .binary64 sign mantissa exponent accuracy))) := by
  have unit : (0 : ℚ) < 2 ^ lifted := by positivity
  have short : extended.roundedMantissa ≤ 2 ^ 53 := by
    apply (placed.leaves.bounds _).2
    rw [div_le_iff₀ unit]
    exact_mod_cast placed.short.le
  have digits : 2 ^ 52 ≤ extended.roundedMantissa ∨ lifted = -1074 := by
    refine placed.filled.imp_left fun filled => (placed.leaves.bounds _).1 ?_
    rw [le_div_iff₀ unit]
    exact_mod_cast filled
  obtain ⟨kept, last, second, same, keptShort, least, keptDigits⟩ := carry short placed.least digits
  unfold roundWithAccuracy
  simp only [first, second]
  rw [← same]
  split
  next zero =>
    rw [unpack_pack (show Canonical (.zero sign) from trivial), zero]
    exact Or.inl (by simp [unpacked?])
  next positive => exact pack_stands sign (Nat.pos_of_ne_zero positive) keptShort least keptDigits

theorem round_stands (sign : Sign)
    (leaves : Leaves (.ofMantissaAndAccuracy mantissa accuracy) (size / 2 ^ exponent)) (filled : Filled mantissa exponent) :
    ∃ extended lifted, Placed extended lifted size ∧
      Stands sign (extended.roundedMantissa * 2 ^ lifted)
        (unpack .binary64 (pack .binary64 (roundWithAccuracy .binary64 sign mantissa exponent accuracy))) := by
  obtain ⟨extended, lifted, first, placed⟩ := shift_placed leaves filled
  exact ⟨extended, lifted, placed, placed_stands sign first placed⟩

end Round

/-- No double lies strictly between a result and the number it stands for. -/
def Near (result : Float) (number : ℚ) : Prop :=
  ∀ bound value, value? bound = some value →
    (value ≤ number → Float.le bound result = true) ∧ (number ≤ value → Float.le result bound = true)

section Near
variable {x y result : Float} {p q number size : ℚ} {mantissa : Nat} {exponent : Int} {accuracy : Accuracy}

private theorem near_self (found : value? result = some number) : Near result number := by
  intro bound value bounded
  exact ⟨(le_iff bounded found).mpr, (le_iff found bounded).mpr⟩

private theorem near_zero {sign : Sign}
    (unpacked : result.toModel.unpack = unpack .binary64 (pack .binary64 (.zero sign))) : Near result 0 := by
  apply near_self
  rw [value?, unpacked, unpack_pack (show Canonical (.zero sign) from trivial)]
  rfl

private theorem placed_bounds {extended : ExtendedMantissa} (placed : Placed extended exponent size)
    (found : value? x = some p) :
    (p ≤ size → p ≤ extended.roundedMantissa * 2 ^ exponent) ∧
      (size ≤ p → extended.roundedMantissa * 2 ^ exponent ≤ p) := by
  have unit : (0 : ℚ) < 2 ^ exponent := by positivity
  have whole (bound : Nat) : ((bound : ℚ) * 2 ^ exponent ≤ size → (bound : ℚ) * 2 ^ exponent ≤
        extended.roundedMantissa * 2 ^ exponent) ∧
      (size ≤ bound * 2 ^ exponent → extended.roundedMantissa * 2 ^ exponent ≤ (bound : ℚ) * 2 ^ exponent) := by
    obtain ⟨below, above⟩ := placed.leaves.bounds bound
    rw [le_div_iff₀ unit] at below
    rw [div_le_iff₀ unit] at above
    rw [mul_le_mul_iff_left₀ unit, mul_le_mul_iff_left₀ unit, Nat.cast_le, Nat.cast_le]
    exact ⟨below, above⟩
  rcases le_or_gt p 0 with negative | positive
  · have natural : (0 : ℚ) ≤ extended.roundedMantissa * 2 ^ exponent := by positivity
    refine ⟨fun _ => negative.trans natural, fun above => ?_⟩
    have nothing := (whole 0).2 (above.trans (by simpa using negative))
    have low := placed.leaves.low
    rw [le_div_iff₀ unit] at low
    have size : 0 ≤ size := le_trans (by positivity) low
    exact nothing.trans (by simpa using size.trans above)
  · obtain ⟨mantissa, other, rfl, short, least, _⟩ := value_positive found positive
    rcases le_or_gt exponent other with coarse | fine
    · obtain ⟨count, rfl⟩ := Int.le.dest coarse
      have scaled : (mantissa : ℚ) * 2 ^ (exponent + count) = (mantissa * 2 ^ count : Nat) * 2 ^ exponent := by
        rw [zpow_add₀ two_ne_zero, zpow_natCast]
        push_cast
        ring
      rw [scaled]
      exact whole _
    · -- A bound with a lower exponent lies below every mantissa with its digits in place.
      have filled := placed.filled.resolve_right (by omega)
      have bound : (mantissa : ℚ) < 2 ^ 53 := by exact_mod_cast short
      have below : (mantissa : ℚ) * 2 ^ other < 2 ^ 52 * 2 ^ exponent := by
        calc (mantissa : ℚ) * 2 ^ other < 2 ^ 53 * 2 ^ other := by gcongr
          _ ≤ 2 ^ 52 * 2 ^ exponent := by
            rw [two_pow_mul, two_pow_mul]
            exact zpow_le_zpow_right₀ one_le_two (by push_cast; omega)
      refine ⟨fun _ => below.le.trans ?_, fun above => absurd (filled.trans above) (not_le.mpr below)⟩
      have kept := (whole (2 ^ 52)).1
      push_cast at kept
      exact kept filled

private theorem le_infinity (found : value? x = some p) (infinite : y.toModel.unpack = .infinity .positive) :
    Float.le x y = true := by
  unfold value? at found
  rw [le_unpacked, infinite]
  cases number : x.toModel.unpack with
  | notANumber | infinity => rw [number] at found; cases found
  | zero | finite => rfl

private theorem infinity_le (found : value? x = some p) (infinite : y.toModel.unpack = .infinity .negative) :
    Float.le y x = true := by
  unfold value? at found
  rw [le_unpacked, infinite]
  cases number : x.toModel.unpack with
  | notANumber | infinity => rw [number] at found; cases found
  | zero | finite => rfl

/-- A rounded number keeps every bound that is a double. -/
theorem near_round {sign : Sign}
    (leaves : Leaves (.ofMantissaAndAccuracy mantissa accuracy) (size / 2 ^ exponent)) (filled : Filled mantissa exponent)
    (rounded : result.toModel.unpack =
      unpack .binary64 (pack .binary64 (roundWithAccuracy .binary64 sign mantissa exponent accuracy))) :
    Near result (sign.apply 1 * size) := by
  obtain ⟨extended, lifted, placed, stands⟩ := round_stands sign leaves filled
  rw [← rounded, Stands] at stands
  intro bound value found
  cases sign with
  | positive =>
    obtain ⟨below, above⟩ := placed_bounds placed found
    simp only [Sign.apply, Int.cast_one, one_mul] at stands ⊢
    rcases stands with finite | ⟨infinite, large⟩
    · rw [le_iff found finite, le_iff finite found]
      exact ⟨below, above⟩
    · refine ⟨fun _ => le_infinity found infinite, fun low => ?_⟩
      exact absurd (large.trans (above low)) (not_le.mpr (value_lt found))
  | negative =>
    -- The minus of the bound is compared with the size, and the two sides change places.
    obtain ⟨below, above⟩ := placed_bounds placed (value_neg found)
    simp only [Sign.apply, Int.cast_neg, Int.cast_one, neg_mul, one_mul] at stands ⊢
    rcases stands with finite | ⟨infinite, large⟩
    · rw [le_iff found finite, le_iff finite found]
      exact ⟨fun low => le_neg.mp (above (le_neg.mp low)), fun high => neg_le.mp (below (neg_le.mp high))⟩
    · refine ⟨fun high => ?_, fun _ => infinity_le found infinite⟩
      exact absurd (large.trans (above (le_neg.mp high))) (not_le.mpr (value_lt (value_neg found)))

private theorem shifted_filled (mantissa : Nat) (exponent : Int) (positive : 0 < mantissa) :
    Filled (mantissa <<< (exponent - max ((mantissa.log2 : Int) + 1 + exponent - 53) (-1074)).toNat)
      (exponent - (exponent - max ((mantissa.log2 : Int) + 1 + exponent - 53) (-1074)).toNat) := by
  obtain ⟨count, counted⟩ : ∃ count, count =
      (exponent - max ((mantissa.log2 : Int) + 1 + exponent - 53) (-1074)).toNat := ⟨_, rfl⟩
  rw [← counted]
  by_cases least : exponent - count ≤ -1074
  · exact Or.inr least
  · left
    rw [Nat.shiftLeft_eq]
    calc 2 ^ 52 ≤ 2 ^ (mantissa.log2 + count) := Nat.pow_le_pow_right Nat.two_pos (by omega)
      _ = 2 ^ mantissa.log2 * 2 ^ count := Nat.pow_add ..
      _ ≤ mantissa * 2 ^ count := Nat.mul_le_mul_right _ (Nat.log2_self_le (by omega))

/-- Rounding gives a mantissa all the digits that a double can keep before it takes
digits off. -/
theorem round_leaves (sign : Sign) (positive : 0 < mantissa) (exponent : Int) :
    ∃ (others : Nat) (lower : Int), Float.Model.UnpackedFloat.round .binary64 sign mantissa exponent =
        roundWithAccuracy .binary64 sign others lower .exact ∧
      Leaves (.ofMantissaAndAccuracy others .exact) (mantissa * 2 ^ exponent / 2 ^ lower) ∧ Filled others lower := by
  refine ⟨_, _, rfl, ?_, shifted_filled mantissa exponent positive⟩
  rw [target_eq]
  generalize (exponent - max ((mantissa.log2 : Int) + 1 + exponent - 53) (-1074)).toNat = count
  have same : (mantissa : ℚ) * 2 ^ exponent / 2 ^ (exponent - count) = (mantissa <<< count : Nat) := by
    rw [zpow_sub₀ two_ne_zero, zpow_natCast, Nat.shiftLeft_eq]
    push_cast
    field_simp
  rw [same]
  exact Leaves.exactly _

private theorem near_rounded {sign : Sign} (positive : 0 < mantissa)
    (rounded : result.toModel.unpack =
      unpack .binary64 (pack .binary64 (Float.Model.UnpackedFloat.round .binary64 sign mantissa exponent))) :
    Near result (sign.apply 1 * (mantissa * 2 ^ exponent)) := by
  obtain ⟨_, _, same, leaves, filled⟩ := round_leaves sign positive exponent
  rw [same] at rounded
  exact near_round leaves filled rounded

private theorem near_normalize {whole : Int} {zeroSign : Sign}
    (rounded : result.toModel.unpack =
      unpack .binary64 (pack .binary64 (Float.Model.UnpackedFloat.normalize .binary64 whole exponent zeroSign))) :
    Near result (whole * 2 ^ exponent) := by
  unfold Float.Model.UnpackedFloat.normalize at rounded
  rcases lt_trichotomy whole 0 with negative | zero | positive
  · rw [compare_lt_iff_lt.mpr negative] at rounded
    have size : ((-whole).toNat : ℚ) = -whole := by exact_mod_cast Int.toNat_of_nonneg (by omega : 0 ≤ -whole)
    simpa [Sign.apply, size] using near_rounded (by omega) rounded
  · rw [compare_eq_iff_eq.mpr zero] at rounded
    rw [zero, Int.cast_zero, zero_mul]
    exact near_zero rounded
  · rw [compare_gt_iff_gt.mpr positive] at rounded
    have size : (whole.toNat : ℚ) = whole := by exact_mod_cast Int.toNat_of_nonneg positive.le
    simpa [Sign.apply, size] using near_rounded (by omega) rounded

theorem near_toFloat (word : UInt64) : Near word.toFloat word.toNat := by
  have near : Near word.toFloat ((word.toNat : Int) * 2 ^ (0 : Int)) := near_normalize rfl
  simpa using near

theorem near_mul (first : value? x = some p) (second : value? y = some q) : Near (x * y) (p * q) := by
  have unpacked := unpack_mul x y
  rcases value_cases first with ⟨sign, number, rfl⟩ | ⟨sign, mantissa, exponent, positive, number, canonical, rfl⟩
  · rcases value_cases second with ⟨_, other, rfl⟩ | ⟨_, _, _, _, other, _, rfl⟩
    all_goals
      rw [number, other] at unpacked
      rw [zero_mul]
      exact near_zero unpacked
  rcases value_cases second with ⟨_, other, rfl⟩ | ⟨otherSign, others, otherExponent, filled, other, otherCanonical, rfl⟩
  · rw [number, other] at unpacked
    rw [mul_zero]
    exact near_zero unpacked
  rw [number, other] at unpacked
  have leaves : Leaves (.ofMantissaAndAccuracy (mantissa * others) .exact)
      ((mantissa * others : Nat) * 2 ^ (exponent + otherExponent) / 2 ^ (exponent + otherExponent)) := by
    rw [mul_div_cancel_right₀ _ (by positivity)]
    exact Leaves.exactly _
  have digits : Filled (mantissa * others) (exponent + otherExponent) := by
    rcases canonical.2.2.2 with highest | least
    · exact Or.inl (highest.trans (Nat.le_mul_of_pos_right _ filled))
    · rcases otherCanonical.2.2.2 with highest | otherLeast
      · exact Or.inl (highest.trans (Nat.le_mul_of_pos_left _ positive))
      · exact Or.inr (by omega)
  have near := near_round leaves digits unpacked
  have signs : (sign * otherSign).apply 1 = sign.apply 1 * otherSign.apply 1 := by
    cases sign <;> cases otherSign <;> rfl
  rw [signs, zpow_add₀ two_ne_zero] at near
  push_cast at near
  convert near using 1
  ring

/-- Doubles that are not zero are divided as whole numbers, as far as the digits of a
double go, and the rest gives the accuracy. -/
theorem div_finite (first : value? x = some p) (second : value? y = some q) (nonzero : p ≠ 0) (otherNonzero : q ≠ 0) :
    ∃ sign mantissa exponent accuracy size, sign.apply 1 * size = p / q ∧
      Leaves (.ofMantissaAndAccuracy mantissa accuracy) (size / 2 ^ exponent) ∧ Filled mantissa exponent ∧
      (x / y).toModel.unpack =
        unpack .binary64 (pack .binary64 (roundWithAccuracy .binary64 sign mantissa exponent accuracy)) := by
  have unpacked := unpack_div x y
  rcases value_cases second with ⟨_, _, rfl⟩ | ⟨otherSign, others, otherExponent, filled, other, otherCanonical, rfl⟩
  · exact absurd rfl otherNonzero
  rcases value_cases first with ⟨_, _, rfl⟩ | ⟨sign, mantissa, exponent, positive, number, canonical, rfl⟩
  · exact absurd rfl nonzero
  obtain ⟨base, isBase⟩ : ∃ base, base = min (exponent - otherExponent)
      (max ((mantissa.log2 + 1 + exponent) - (others.log2 + 1 + otherExponent) - 53) (-1074)) := ⟨_, rfl⟩
  obtain ⟨count, counted⟩ := Int.eq_ofNat_of_zero_le (by omega : 0 ≤ exponent - otherExponent - base)
  have core : divCore .binary64 mantissa exponent others otherExponent =
      (mantissa <<< count / others, base, accuracyOfFraction (mantissa <<< count % others) others) := by
    have target : Format.binary64.targetExponent (totalExponent mantissa exponent - totalExponent others otherExponent) =
      max ((mantissa.log2 + 1 + exponent) - (others.log2 + 1 + otherExponent) - 53) (-1074) := rfl
    unfold divCore
    rw [target, ← isBase]
    dsimp only
    rw [counted, Int.toNat_natCast]
  rw [number, other, UnpackedFloat.div, core] at unpacked
  refine ⟨sign / otherSign, _, _, _, (mantissa * 2 ^ exponent) / (others * 2 ^ otherExponent), ?_, ?_, ?_, unpacked⟩
  · have signs : (sign / otherSign).apply 1 = sign.apply 1 * otherSign.apply 1 := by
      cases sign <;> cases otherSign <;> rfl
    have inverse : ((otherSign.apply 1 : Int) : ℚ)⁻¹ = otherSign.apply 1 := by
      cases otherSign <;> simp [Sign.apply]
    rw [signs, Int.cast_mul, mul_div_mul_comm ((sign.apply 1 : Int) : ℚ), div_eq_mul_inv ((sign.apply 1 : Int) : ℚ), inverse]
  · have same : (mantissa * 2 ^ exponent : ℚ) / (others * 2 ^ otherExponent) / 2 ^ base =
        (mantissa <<< count : Nat) / others := by
      obtain rfl : base = exponent - otherExponent - count := by omega
      rw [Nat.shiftLeft_eq, zpow_sub₀ two_ne_zero, zpow_sub₀ two_ne_zero, zpow_natCast]
      push_cast
      field_simp
    rw [same]
    exact Leaves.quotient _ filled
  · by_cases least : base ≤ -1074
    · exact Or.inr least
    · left
      rw [Nat.le_div_iff_mul_le filled, Nat.shiftLeft_eq]
      calc 2 ^ 52 * others ≤ 2 ^ 52 * 2 ^ (others.log2 + 1) := Nat.mul_le_mul_left _ Nat.lt_log2_self.le
        _ = 2 ^ (52 + (others.log2 + 1)) := (Nat.pow_add ..).symm
        _ ≤ 2 ^ (mantissa.log2 + count) := Nat.pow_le_pow_right Nat.two_pos (by omega)
        _ = 2 ^ mantissa.log2 * 2 ^ count := Nat.pow_add ..
        _ ≤ mantissa * 2 ^ count := Nat.mul_le_mul_right _ (Nat.log2_self_le (by omega))

theorem near_div (first : value? x = some p) (second : value? y = some q) (nonzero : q ≠ 0) : Near (x / y) (p / q) := by
  rcases value_cases first with ⟨_, number, rfl⟩ | ⟨_, _, _, _, number, _, _⟩
  · have unpacked := unpack_div x y
    rcases value_cases second with ⟨_, _, rfl⟩ | ⟨_, _, _, _, other, _, _⟩
    · exact absurd rfl nonzero
    · rw [number, other] at unpacked
      rw [zero_div]
      exact near_zero unpacked
  · obtain ⟨_, _, _, _, _, same, leaves, digits, unpacked⟩ :=
      div_finite first second (value_nonzero first number) nonzero
    rw [← same]
    exact near_round leaves digits unpacked

private theorem near_kept (found : value? x = some p) (kept : result.toModel.unpack =
    unpack .binary64 (pack .binary64 x.toModel.unpack)) : Near result p := by
  have canonical : Canonical x.toModel.unpack := unpack_canonical _
  rw [unpack_pack canonical] at kept
  apply near_self
  rw [value?, kept]
  exact found

/-- Doubles that are not zero are added as whole numbers with one exponent. -/
theorem add_finite (first : value? x = some p) (second : value? y = some q) (nonzero : p ≠ 0) (otherNonzero : q ≠ 0) :
    ∃ (whole : Int) (exponent : Int), whole * 2 ^ exponent = p + q ∧ (x + y).toModel.unpack =
      unpack .binary64 (pack .binary64 (Float.Model.UnpackedFloat.normalize .binary64 whole exponent .positive)) := by
  have unpacked := unpack_add x y
  rcases value_cases first with ⟨_, _, rfl⟩ | ⟨sign, mantissa, exponent, positive, number, _, same⟩
  · exact absurd rfl nonzero
  rcases value_cases second with ⟨_, _, rfl⟩ | ⟨otherSign, others, otherExponent, filled, other, _, otherSame⟩
  · exact absurd rfl otherNonzero
  rw [number, other, UnpackedFloat.add] at unpacked
  dsimp only [decreaseExponent] at unpacked
  have lowered (sign : Sign) (mantissa : Nat) {exponent lower : Int} (below : lower ≤ exponent) :
      ((sign.apply (mantissa <<< (exponent - lower).toNat : Nat) : Int) : ℚ) * 2 ^ lower =
        sign.apply 1 * (mantissa * 2 ^ exponent) := by
    obtain ⟨count, rfl⟩ := Int.le.dest below
    rw [add_sub_cancel_left, Int.toNat_natCast, apply_eq, zpow_add₀ two_ne_zero, zpow_natCast, Nat.shiftLeft_eq]
    push_cast
    ring
  refine ⟨_, _, ?_, unpacked⟩
  rw [Int.cast_add, add_mul, lowered _ _ (min_le_left _ _), lowered _ _ (min_le_right _ _), same, otherSame]

theorem near_add (first : value? x = some p) (second : value? y = some q) : Near (x + y) (p + q) := by
  have unpacked := unpack_add x y
  rcases value_cases first with ⟨_, number, rfl⟩ | ⟨_, _, _, _, number, _, _⟩
  · rcases value_cases second with ⟨_, other, rfl⟩ | ⟨_, _, _, _, other, _, _⟩
    · rw [number, other, UnpackedFloat.add] at unpacked
      rw [add_zero]
      split at unpacked <;> exact near_zero unpacked
    · rw [zero_add]
      apply near_kept second
      rw [unpacked, number, other]
      rfl
  rcases value_cases second with ⟨_, other, rfl⟩ | ⟨_, _, _, _, other, _, _⟩
  · rw [add_zero]
    apply near_kept first
    rw [unpacked, number, other]
    rfl
  obtain ⟨whole, exponent, sum, unpacked⟩ :=
    add_finite first second (value_nonzero first number) (value_nonzero second other)
  rw [← sum]
  exact near_normalize unpacked

/-- Also for numbers that are not finite. -/
theorem sub_eq (x y : Float) : x - y = x + -y := by
  have unpacked : UnpackedFloat.sub .binary64 x.toModel.unpack y.toModel.unpack =
      UnpackedFloat.add .binary64 x.toModel.unpack (-y).toModel.unpack := by
    rw [unpack_neg]
    cases x.toModel.unpack with
    | notANumber => rfl
    | infinity sign | zero sign | finite sign =>
      cases y.toModel.unpack with
      | notANumber | infinity | zero => rfl
      | finite other =>
        simp [UnpackedFloat.sub, UnpackedFloat.add, UnpackedFloat.neg, apply_neg, sub_eq_add_neg]
  change Float.ofModel (.pack (UnpackedFloat.sub .binary64 x.toModel.unpack y.toModel.unpack)) =
    Float.ofModel (.pack (UnpackedFloat.add .binary64 x.toModel.unpack (-y).toModel.unpack))
  rw [unpacked]

theorem near_sub (first : value? x = some p) (second : value? y = some q) : Near (x - y) (p - q) := by
  rw [sub_eq, sub_eq_add_neg]
  exact near_add first (value_neg second)

private theorem finite_between (below : value? x = some p) (above : value? y = some q) (low : Float.le x result = true)
    (high : Float.le result y = true) : ∃ number, value? result = some number ∧ p ≤ number ∧ number ≤ q := by
  cases found : value? result with
  | some number => exact ⟨number, rfl, (le_iff below found).mp low, (le_iff found above).mp high⟩
  | none =>
    rw [le_unpacked] at low high
    unfold value? at found below above
    cases unpacked : result.toModel.unpack with
    | zero | finite => rw [unpacked] at found; cases found
    | notANumber =>
      rw [unpacked] at high
      cases high
    | infinity sign =>
      rw [unpacked] at low high
      cases sign with
      | positive =>
        cases other : y.toModel.unpack <;> rw [other] at high above
        · cases above
        · cases above
        · cases high
        · cases high
      | negative =>
        cases other : x.toModel.unpack <;> rw [other] at low below
        · cases below
        · cases below
        · cases low
        · cases low

/-- A result between two doubles is finite, and it stays between them. -/
theorem Near.bounded (near : Near result number) (below : value? x = some p) (above : value? y = some q)
    (low : p ≤ number) (high : number ≤ q) : ∃ value, value? result = some value ∧ p ≤ value ∧ value ≤ q :=
  finite_between below above ((near x p below).1 low) ((near y q above).2 high)

/-- A number that is a double is the result. -/
theorem Near.value (near : Near result number) (found : value? x = some number) : value? result = some number := by
  obtain ⟨value, same, low, high⟩ := near.bounded found found le_rfl le_rfl
  rw [same, le_antisymm high low]

end Near

end ClipRank.Proofs.Rounding
