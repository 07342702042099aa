import ClipRank.Proofs.Rounding

/-! How large doubles are. Every mantissa of 53 bits is one in each binary place from the
least to the largest, so powers of two are bounds that rounding keeps. A result is
infinite from halfway between the largest double and the power of two after it on. -/

namespace ClipRank.Proofs.Magnitudes
open Float.Model (Format UnpackedFloat)
open Float.Model.UnpackedFloat DoubleValue WholeDoubles Rounding

section Exists
variable {mantissa : Nat} {exponent : Int}

private theorem value_pack {positive : 0 < mantissa} (canonical : Canonical (.finite .positive mantissa exponent positive)) :
    value? (Float.ofModel (.pack (.finite .positive mantissa exponent positive))) = some (mantissa * 2 ^ exponent : ℚ) := by
  have unpacked : (Float.ofModel (.pack (.finite .positive mantissa exponent positive))).toModel.unpack = _ :=
    unpack_pack canonical
  rw [value_finite unpacked]
  simp [Sign.apply]

/-- A mantissa that is not too long is a double in every binary place. -/
theorem exists_double (short : mantissa < 2 ^ 53) (least : -1074 ≤ exponent) (most : exponent ≤ 971) :
    ∃ x, value? x = some (mantissa * 2 ^ exponent : ℚ) := by
  rcases Nat.eq_zero_or_pos mantissa with rfl | positive
  · exact ⟨0.0, by simpa using value_zero⟩
  -- The mantissa is moved up until its highest bit is in place or the exponent is least.
  obtain ⟨gap, isGap⟩ : ∃ gap, gap = min (52 - mantissa.log2) (exponent + 1074).toNat := ⟨_, rfl⟩
  have log : mantissa.log2 < 53 := (Nat.log2_lt positive.ne').mpr short
  have fits : mantissa * 2 ^ gap < 2 ^ 53 := by
    calc mantissa * 2 ^ gap < 2 ^ (mantissa.log2 + 1) * 2 ^ gap :=
          Nat.mul_lt_mul_of_pos_right Nat.lt_log2_self (Nat.two_pow_pos _)
      _ = 2 ^ (mantissa.log2 + 1 + gap) := (Nat.pow_add ..).symm
      _ ≤ 2 ^ 53 := Nat.pow_le_pow_right Nat.two_pos (by omega)
  have filled : 2 ^ 52 ≤ mantissa * 2 ^ gap ∨ exponent - gap = -1074 := by
    by_cases highest : gap = 52 - mantissa.log2
    · left
      calc 2 ^ 52 = 2 ^ mantissa.log2 * 2 ^ gap := by rw [← Nat.pow_add]; congr 1; omega
        _ ≤ mantissa * 2 ^ gap := Nat.mul_le_mul_right _ (Nat.log2_self_le positive.ne')
    · right
      omega
  have moved : 0 < mantissa * 2 ^ gap := Nat.mul_pos positive (Nat.two_pow_pos _)
  have canonical : Canonical (.finite .positive (mantissa * 2 ^ gap) (exponent - gap) moved) :=
    ⟨fits, by omega, by omega, filled⟩
  have found := value_pack canonical
  refine ⟨_, found.trans (congrArg some ?_)⟩
  rw [zpow_sub₀ two_ne_zero, zpow_natCast]
  push_cast
  field_simp

theorem exists_power {exponent : Nat} (most : exponent ≤ 1023) : ∃ x, value? x = some (2 ^ exponent : ℚ) := by
  obtain ⟨x, found⟩ := exists_double (by norm_num : 2 ^ 52 < 2 ^ 53) (by omega : -1074 ≤ (exponent : Int) - 52) (by omega)
  refine ⟨x, found.trans (congrArg some ?_)⟩
  rw [Nat.cast_pow, Nat.cast_two, two_pow_mul, ← zpow_natCast]
  congr 1
  push_cast
  ring

end Exists

section Overflow
variable {x y : Float} {p q size : ℚ} {exponent : Int} {extended : ExtendedMantissa}

/-- The number halfway between the largest double and the power of two after it. -/
def limit : ℚ := 2 ^ 1024 - 2 ^ 970

private theorem top_eq : (2 : ℚ) ^ 1024 = 2 ^ 53 * 2 ^ (971 : Int) := by
  rw [zpow_ofNat, ← pow_add]

private theorem limit_eq : limit = (2 ^ 53 - 1 / 2) * 2 ^ (971 : Int) := by
  have half : (2 : ℚ) ^ (971 : Int) = 2 * 2 ^ 970 := by rw [zpow_ofNat, pow_succ']
  rw [limit, top_eq, half]
  generalize (2 : ℚ) ^ 970 = unit
  ring

theorem limit_pos : 0 < limit := by
  rw [limit_eq]
  exact mul_pos (by norm_num) (by positivity)

theorem limit_le_top : limit ≤ 2 ^ 1024 := by
  have unit : (0 : ℚ) < 2 ^ (971 : Int) := by positivity
  rw [limit_eq, top_eq]
  gcongr
  norm_num

/-- A size is rounded to a number that no double reaches just from the limit on. -/
private theorem rounded_reaches (placed : Placed extended exponent size) :
    2 ^ 1024 ≤ (extended.roundedMantissa : ℚ) * 2 ^ exponent ↔ limit ≤ size := by
  have unit : (0 : ℚ) < 2 ^ exponent := by positivity
  have high : (extended.roundedMantissa : ℚ) ≤ 2 ^ 53 := by
    have rounded := (placed.leaves.bounds (2 ^ 53)).2
    rw [div_le_iff₀ unit] at rounded
    exact_mod_cast rounded (by exact_mod_cast placed.short.le)
  rcases lt_trichotomy exponent 971 with small | rfl | large
  · have below : (2 : ℚ) ^ 53 * 2 ^ exponent < limit := by
      have half : (2 : ℚ) ^ exponent ≤ 2 ^ (971 - 1 : Int) := zpow_le_zpow_right₀ one_le_two (by omega)
      have top : (0 : ℚ) < 2 ^ (971 : Int) := by positivity
      rw [zpow_sub_one₀ two_ne_zero] at half
      rw [limit_eq]
      generalize (2 : ℚ) ^ (971 : Int) = place at half top
      linarith
    have rounded : (extended.roundedMantissa : ℚ) * 2 ^ exponent ≤ 2 ^ 53 * 2 ^ exponent := by gcongr
    exact iff_of_false (not_le.mpr (rounded.trans_lt (below.trans_le limit_le_top))) (not_le.mpr (placed.short.trans below))
  · rw [top_eq, limit_eq, mul_le_mul_iff_left₀ unit, ← le_div_iff₀ unit]
    have short : extended.mantissa < 2 ^ 53 := by
      have strict := (div_lt_iff₀ unit).mpr placed.short
      exact_mod_cast placed.leaves.low.trans_lt strict
    have next := (Leaves.rounded_le extended).1
    rcases Nat.lt_or_ge extended.mantissa (2 ^ 53 - 1) with lower | highest
    · have room : (extended.mantissa : ℚ) + 1 ≤ 2 ^ 53 - 1 := by
        have whole : extended.mantissa + 2 ≤ 2 ^ 53 := by omega
        rw [le_sub_iff_add_le, add_assoc]
        exact_mod_cast whole
      have rounded : (extended.roundedMantissa : ℚ) ≤ extended.mantissa + 1 := by exact_mod_cast next
      have above := placed.leaves.high
      refine iff_of_false (not_le.mpr ?_) (not_le.mpr ?_) <;> linarith
    · have same : extended.mantissa = 2 ^ 53 - 1 := by omega
      have up := placed.leaves.rounded_up (by rw [same]; rfl)
      have kept := Leaves.rounded_ge extended
      rw [same] at up kept next
      have half : ((2 ^ 53 - 1 : Nat) : ℚ) + 1 / 2 = 2 ^ 53 - 1 / 2 := by norm_num
      rw [half] at up
      rw [← up]
      constructor
      · intro reached
        have top : 2 ^ 53 ≤ extended.roundedMantissa := by exact_mod_cast reached
        omega
      · intro rounded
        rw [rounded]
        norm_num
  · have filled := placed.filled.resolve_right (by omega)
    have rounded : (2 : ℚ) ^ 52 ≤ extended.roundedMantissa := by
      have kept := (placed.leaves.bounds (2 ^ 52)).1
      rw [le_div_iff₀ unit] at kept
      exact_mod_cast kept (by exact_mod_cast filled)
    have top : (2 : ℚ) ^ 1024 ≤ 2 ^ 52 * 2 ^ exponent := by
      rw [two_pow_mul, ← zpow_natCast]
      exact zpow_le_zpow_right₀ one_le_two (by push_cast; omega)
    refine iff_of_true (top.trans ?_) (limit_le_top.trans (top.trans filled))
    gcongr

/-- A quotient is finite just when it is below the limit. -/
theorem div_finite_iff (first : value? x = some p) (second : value? y = some q) (natural : 0 ≤ p) (positive : 0 < q) :
    (∃ r, value? (x / y) = some r) ↔ p / q < limit := by
  rcases natural.eq_or_lt with rfl | size
  · have found := (near_div first second positive.ne').value (by simpa using value_zero)
    rw [zero_div]
    exact iff_of_true ⟨_, found⟩ limit_pos
  · obtain ⟨sign, mantissa, exponent, accuracy, quotient, same, leaves, filled, unpacked⟩ :=
      div_finite first second size.ne' positive.ne'
    have low : 0 ≤ quotient := by
      have unit : (0 : ℚ) < 2 ^ exponent := by positivity
      have below := leaves.low
      rw [le_div_iff₀ unit] at below
      exact le_trans (by positivity) below
    have quotientPositive : 0 < p / q := div_pos size positive
    cases sign with
    | negative =>
      simp only [Sign.apply, Int.cast_neg, Int.cast_one, neg_mul, one_mul] at same
      linarith
    | positive =>
      simp only [Sign.apply, Int.cast_one, one_mul] at same
      obtain ⟨extended, lifted, placed, stands⟩ := round_stands .positive leaves filled
      rw [← unpacked] at stands
      rw [← same, ← not_le, ← rounded_reaches placed, not_le]
      rcases stands with finite | ⟨infinite, large⟩
      · simp only [Sign.apply, Int.cast_one, one_mul] at finite
        exact iff_of_true ⟨_, finite⟩ (value_lt finite)
      · refine iff_of_false ?_ (not_lt.mpr large)
        rintro ⟨r, found⟩
        rw [value?, infinite] at found
        cases found

end Overflow

end ClipRank.Proofs.Magnitudes
