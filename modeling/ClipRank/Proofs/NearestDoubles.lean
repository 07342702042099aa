import ClipRank.Binary64.Fixed
import ClipRank.Proofs.SignedDoubles

/-! The double that a word becomes. A word keeps its 53 highest bits, and what is cut
off goes to the nearest double, from the middle to the even one. So the order of words
is kept, but words of more than 53 bits can fall together. -/

namespace ClipRank.Proofs.NearestDoubles
open Float.Model (Format totalExponent)
open Float.Model.UnpackedFloat DoubleValue WholeDoubles Rounding

section Quotient
variable {number other divisor : Nat}

private theorem roundDiv_ge (number divisor : Nat) : number / divisor ≤ Binary64.roundDiv number divisor := by
  unfold Binary64.roundDiv
  dsimp only
  split
  · exact le_rfl
  · split <;> omega

private theorem roundDiv_le (number divisor : Nat) : Binary64.roundDiv number divisor ≤ number / divisor + 1 := by
  unfold Binary64.roundDiv
  dsimp only
  split
  · omega
  · split <;> omega

/-- Quotients of one whole part are rounded by their remainders. -/
private theorem roundDiv_mod (same : number / divisor = other / divisor) (below : number ≤ other) :
    Binary64.roundDiv number divisor ≤ Binary64.roundDiv other divisor := by
  have split := Nat.div_add_mod number divisor
  have otherSplit := Nat.div_add_mod other divisor
  rw [same] at split
  have rest : number % divisor ≤ other % divisor := by omega
  unfold Binary64.roundDiv
  dsimp only
  rw [same]
  split_ifs <;> omega

private theorem roundDiv_mono (divisor : Nat) (below : number ≤ other) :
    Binary64.roundDiv number divisor ≤ Binary64.roundDiv other divisor := by
  rcases (Nat.div_le_div_right (c := divisor) below).eq_or_lt with same | less
  · exact roundDiv_mod same below
  · calc Binary64.roundDiv number divisor ≤ number / divisor + 1 := roundDiv_le ..
      _ ≤ other / divisor := less
      _ ≤ Binary64.roundDiv other divisor := roundDiv_ge ..

private theorem roundDiv_multiple (quotient : Nat) (positive : 0 < divisor) :
    Binary64.roundDiv (quotient * divisor) divisor = quotient := by
  unfold Binary64.roundDiv
  simp [Nat.mul_div_cancel _ positive, positive]

private theorem roundDiv_scaled (number divisor : Nat) {factor : Nat} (positive : 0 < factor) :
    Binary64.roundDiv (number * factor) (divisor * factor) = Binary64.roundDiv number divisor := by
  have excess : 2 * (number % divisor * factor) = 2 * (number % divisor) * factor := (Nat.mul_assoc ..).symm
  unfold Binary64.roundDiv
  simp only [Nat.mul_div_mul_right _ _ positive, Nat.mul_mod_mul_right, excess, Nat.mul_lt_mul_right positive]

end Quotient

section Nearest
variable {number other : Nat}

/-- The unit of the lowest bit that a double keeps of a number. -/
def unit (number : Nat) : Nat :=
  2 ^ (number.log2 - 52)

def nearest (number : Nat) : Nat :=
  Binary64.roundDiv number (unit number) * unit number

private theorem unit_pos (number : Nat) : 0 < unit number :=
  Nat.two_pow_pos _

private theorem nearest_ge {quotient : Nat} (below : quotient * unit number ≤ number) :
    quotient * unit number ≤ nearest number := by
  refine Nat.mul_le_mul_right _ ?_
  calc quotient = Binary64.roundDiv (quotient * unit number) (unit number) :=
        (roundDiv_multiple quotient (unit_pos number)).symm
    _ ≤ Binary64.roundDiv number (unit number) := roundDiv_mono _ below

private theorem nearest_le {quotient : Nat} (above : number ≤ quotient * unit number) :
    nearest number ≤ quotient * unit number := by
  refine Nat.mul_le_mul_right _ ?_
  calc Binary64.roundDiv number (unit number) ≤ Binary64.roundDiv (quotient * unit number) (unit number) :=
        roundDiv_mono _ above
    _ = quotient := roundDiv_multiple quotient (unit_pos number)

theorem nearest_small (short : number < 2 ^ 53) : nearest number = number := by
  have one : unit number = 1 := by
    have log : number.log2 < 53 := by
      rcases Nat.eq_zero_or_pos number with rfl | positive
      · decide
      · exact (Nat.log2_lt (by omega)).mpr short
    rw [unit, Nat.sub_eq_zero_of_le (by omega), Nat.pow_zero]
  have low : number * unit number ≤ nearest number := nearest_ge (by rw [one, Nat.mul_one])
  have high : nearest number ≤ number * unit number := nearest_le (by rw [one, Nat.mul_one])
  rw [one, Nat.mul_one] at low high
  exact le_antisymm high low

private theorem power_split {number power : Nat} (high : number.log2 ≤ power) :
    2 ^ power = 2 ^ (power - (number.log2 - 52)) * unit number := by
  rw [unit, ← Nat.pow_add]
  congr 1
  omega

private theorem nearest_ge_power (positive : 0 < number) : 2 ^ number.log2 ≤ nearest number := by
  have below := Nat.log2_self_le positive.ne'
  rw [power_split le_rfl] at below ⊢
  exact nearest_ge below

theorem nearest_le_power (number : Nat) : nearest number ≤ 2 ^ (number.log2 + 1) := by
  have above := (Nat.lt_log2_self (n := number)).le
  rw [power_split (Nat.le_succ _)] at above ⊢
  exact nearest_le above

theorem nearest_pos (positive : 0 < number) : 0 < nearest number :=
  (Nat.two_pow_pos _).trans_le (nearest_ge_power positive)

/-- Words with the same highest bit are rounded to the same unit, and of others the one
with the lower highest bit stays below a power of two that the other reaches. -/
theorem nearest_mono (below : number ≤ other) : nearest number ≤ nearest other := by
  rcases Nat.eq_zero_or_pos number with rfl | positive
  · rw [nearest_small (by norm_num)]
    exact Nat.zero_le _
  have log : number.log2 ≤ other.log2 :=
    (Nat.le_log2 (by omega)).mpr ((Nat.log2_self_le positive.ne').trans below)
  rcases log.eq_or_lt with same | less
  · have units : unit number = unit other := by rw [unit, unit, same]
    rw [nearest, nearest, units]
    exact Nat.mul_le_mul_right _ (roundDiv_mono _ below)
  · calc nearest number ≤ 2 ^ (number.log2 + 1) := nearest_le_power number
      _ ≤ 2 ^ other.log2 := Nat.pow_le_pow_right Nat.two_pos less
      _ ≤ nearest other := nearest_ge_power (positive.trans_le below)

/-- No longer number comes down to one of at most 53 bits. -/
theorem nearest_eq_small (short : number < 2 ^ 53) : nearest number = nearest other ↔ number = other := by
  refine ⟨fun same => ?_, congrArg nearest⟩
  rw [nearest_small short] at same
  rcases Nat.lt_or_ge other (2 ^ 53) with otherShort | long
  · rw [same, nearest_small otherShort]
  · have reached : 2 ^ 53 ≤ nearest other := by
      calc 2 ^ 53 ≤ 2 ^ other.log2 := Nat.pow_le_pow_right Nat.two_pos ((Nat.le_log2 (by omega)).mpr long)
        _ ≤ nearest other := nearest_ge_power (by omega)
    omega

end Nearest

section Shift

/-- The bits that a shift takes off are told apart by the first of them and by whether
any other is set. -/
private theorem shift_bits (mantissa count : Nat) :
    ((ExtendedMantissa.ofMantissaAndAccuracy mantissa .exact >>> count).roundBit = true ↔
        2 ^ count ≤ 2 * (mantissa % 2 ^ count)) ∧
      ((ExtendedMantissa.ofMantissaAndAccuracy mantissa .exact >>> count).stickyBit = true ↔
        mantissa % 2 ^ count ≠ 0 ∧ 2 * (mantissa % 2 ^ count) ≠ 2 ^ count) := by
  induction count with
  | zero =>
    have bare : ExtendedMantissa.ofMantissaAndAccuracy mantissa .exact >>> 0 = ⟨mantissa, false, false⟩ := rfl
    simp [bare, Nat.mod_one]
  | succ count ih =>
    obtain ⟨first, rest⟩ := ih
    have next : (ExtendedMantissa.ofMantissaAndAccuracy mantissa .exact >>> (count + 1)) =
        (ExtendedMantissa.ofMantissaAndAccuracy mantissa .exact >>> count).shiftRightOne := rfl
    have kept : (ExtendedMantissa.ofMantissaAndAccuracy mantissa .exact >>> count).mantissa = mantissa / 2 ^ count :=
      shift_mantissa ..
    have below := Nat.mod_lt mantissa (Nat.two_pow_pos count)
    rw [next, ExtendedMantissa.shiftRightOne, kept, Nat.mod_pow_succ, Nat.pow_succ]
    simp only [bne_iff_ne, Bool.or_eq_true, first, rest]
    generalize mantissa % 2 ^ count = low at below
    generalize 2 ^ count = size at below
    rcases Nat.mod_two_eq_zero_or_one (mantissa / size) with even | odd
    · rw [even]
      omega
    · rw [odd]
      omega

private theorem rounded_shift (mantissa count : Nat) :
    (ExtendedMantissa.ofMantissaAndAccuracy mantissa .exact >>> count).roundedMantissa =
      Binary64.roundDiv mantissa (2 ^ count) := by
  obtain ⟨half, others⟩ := shift_bits mantissa count
  have kept : (ExtendedMantissa.ofMantissaAndAccuracy mantissa .exact >>> count).mantissa = mantissa / 2 ^ count :=
    shift_mantissa ..
  have positive := Nat.two_pow_pos count
  unfold Binary64.roundDiv
  dsimp only
  generalize (ExtendedMantissa.ofMantissaAndAccuracy mantissa .exact >>> count) = extended at half others kept
  obtain ⟨whole, roundBit, stickyBit⟩ := extended
  dsimp only at half others kept
  rw [← kept]
  cases roundBit with
  | false =>
    have below : 2 * (mantissa % 2 ^ count) < 2 ^ count := by simpa using half
    rw [if_pos below]
    cases stickyBit <;> rfl
  | true =>
    have reached : 2 ^ count ≤ 2 * (mantissa % 2 ^ count) := half.mp rfl
    rw [if_neg (by omega)]
    cases stickyBit with
    | false =>
      rw [if_neg (by simp at others; omega)]
      rfl
    | true =>
      rw [if_pos (by simp at others; omega)]
      rfl

end Shift

private theorem log2_zeros {word : Nat} (filled : word ≠ 0) (zeros : Nat) :
    (word * 2 ^ zeros).log2 = word.log2 + zeros := by
  have below := Nat.log2_self_le filled
  have above := Nat.lt_log2_self (n := word)
  have positive : 0 < word * 2 ^ zeros := Nat.mul_pos (Nat.pos_of_ne_zero filled) (Nat.two_pow_pos _)
  refine (Nat.log2_eq_iff positive.ne').mpr ⟨?_, ?_⟩
  · rw [Nat.pow_add]
    exact Nat.mul_le_mul_right _ below
  · rw [Nat.add_right_comm, Nat.pow_add]
    exact Nat.mul_lt_mul_of_pos_right above (Nat.two_pow_pos _)

/-- A long word has all the bits that a double can keep, and is only cut. Zeros behind its
last bit are cut with the others. -/
theorem round_nearest {word : Nat} (long : 2 ^ 53 ≤ word) (short : word < 2 ^ 64) (zeros : Nat) :
    unpacked? (unpack .binary64 (pack .binary64
      (roundWithAccuracy .binary64 .positive (word * 2 ^ zeros) (-zeros) .exact))) = some (nearest word : ℚ) := by
  have high : 53 ≤ word.log2 := (Nat.le_log2 (by omega)).mpr long
  have log : word.log2 < 64 := (Nat.log2_lt (by omega)).mpr short
  have scaled := log2_zeros (by omega : word ≠ 0) zeros
  obtain ⟨count, counted⟩ : ∃ count, count = word.log2 - 52 := ⟨_, rfl⟩
  have target : Format.binary64.targetExponent (totalExponent (word * 2 ^ zeros) (-zeros)) = count := by
    rw [target_eq, scaled]
    omega
  have leaves : Leaves (.ofMantissaAndAccuracy (word * 2 ^ zeros) .exact) ((word : ℚ) / 2 ^ (-zeros : Int)) := by
    have whole : (word : ℚ) / 2 ^ (-zeros : Int) = (word * 2 ^ zeros : Nat) := by
      rw [zpow_neg, div_inv_eq_mul, zpow_natCast]
      push_cast
      rfl
    rw [whole]
    exact Leaves.exactly _
  have filled : Filled (word * 2 ^ zeros) (-zeros) :=
    Or.inl ((by omega : 2 ^ 52 ≤ word).trans (Nat.le_mul_of_pos_right _ (Nat.two_pow_pos _)))
  obtain ⟨extended, lifted, shifted, placed⟩ := shift_placed leaves filled
  have stands := placed_stands .positive shifted placed
  unfold shiftToTargetExponent shiftToExponent at shifted
  rw [target] at shifted
  have cut : ((count : Int) - -zeros).toNat = count + zeros := by omega
  simp only [cut, Prod.mk.injEq] at shifted
  obtain ⟨rfl, same⟩ := shifted
  obtain rfl : lifted = count := by omega
  have rounded : (((ExtendedMantissa.ofMantissaAndAccuracy (word * 2 ^ zeros) .exact >>> (count + zeros)).roundedMantissa : Nat) : ℚ) *
      2 ^ (count : Int) = (nearest word : ℚ) := by
    rw [rounded_shift, Nat.pow_add, roundDiv_scaled _ _ (Nat.two_pow_pos _), nearest, unit, ← counted]
    push_cast
    rfl
  rw [rounded] at stands
  rcases stands with finite | ⟨_, large⟩
  · simpa [Sign.apply] using finite
  · have bounded : nearest word ≤ 2 ^ 64 := (nearest_le_power _).trans (Nat.pow_le_pow_right Nat.two_pos log)
    have size : (nearest word : ℚ) ≤ 2 ^ 64 := by exact_mod_cast bounded
    exact absurd (large.trans size) (not_le.mpr (pow_lt_pow_right₀ one_lt_two (by norm_num)))

/-- A word becomes the double nearest to it. -/
theorem value_nearest (word : UInt64) : value? word.toFloat = some (nearest word.toNat : ℚ) := by
  rcases Nat.lt_or_ge word.toNat (2 ^ 53) with short | long
  · rw [value_toFloat short, nearest_small short]
  have high : 53 ≤ word.toNat.log2 := (Nat.le_log2 (by omega)).mpr long
  have target : Format.binary64.targetExponent (totalExponent word.toNat 0) = ((word.toNat.log2 - 52 : Nat) : Int) := by
    rw [target_eq]
    omega
  have rounded : Float.Model.UnpackedFloat.round .binary64 .positive word.toNat 0 =
      roundWithAccuracy .binary64 .positive (word.toNat * 2 ^ 0) (-(0 : Nat)) .exact := by
    unfold Float.Model.UnpackedFloat.round decreaseExponent
    rw [target]
    simp
  change unpacked?
    (unpack .binary64 (pack .binary64 (Float.Model.UnpackedFloat.normalize .binary64 word.toNat 0 .positive))) = _
  unfold Float.Model.UnpackedFloat.normalize
  rw [Int.compare_eq_gt.mpr (by omega)]
  dsimp only
  rw [Int.toNat_natCast, rounded]
  exact round_nearest long word.toNat_lt 0

end ClipRank.Proofs.NearestDoubles
