import ClipRank.Proofs.Rounding

/-! Doubles with a positive sign, which a zero has or has not. Arithmetic on them stays
positive, and their order by bit patterns is the order of their values. -/

namespace ClipRank.Proofs.SignedDoubles
open Float.Model (Format UnpackedFloat)
open Float.Model.UnpackedFloat DoubleValue WholeDoubles Rounding

abbrev Positive (x : Float) : Prop := Signed .positive x.toModel.unpack

variable {x y : Float} {p q : ℚ}

theorem finite_of_value (found : value? x = some p) (size : 0 < p) :
    ∃ mantissa exponent filled, x.toModel.unpack = .finite .positive mantissa exponent filled := by
  rcases value_cases found with ⟨_, _, rfl⟩ | ⟨sign, mantissa, exponent, filled, number, _, rfl⟩
  · exact absurd size (lt_irrefl 0)
  · cases sign with
    | positive => exact ⟨mantissa, exponent, filled, number⟩
    | negative => exact absurd size (by simpa [Sign.apply] using (magnitude_pos exponent filled).le)

theorem positive_of_value (found : value? x = some p) (size : 0 < p) : Positive x := by
  obtain ⟨_, _, _, number⟩ := finite_of_value found size
  rw [Positive, number]
  rfl

theorem positive_cases (found : value? x = some p) (positive : Positive x) :
    x.toModel.unpack = .zero .positive ∨
      ∃ mantissa exponent filled, x.toModel.unpack = .finite .positive mantissa exponent filled := by
  rcases value_cases found with ⟨sign, number, _⟩ | ⟨sign, mantissa, exponent, filled, number, _, _⟩
  all_goals
    rw [Positive, number] at positive
    cases positive
  · exact Or.inl number
  · exact Or.inr ⟨mantissa, exponent, filled, number⟩

section Arithmetic

private theorem round_signed (sign : Sign) (mantissa : Nat) (exponent : Int) (accuracy : Accuracy) :
    Signed sign (roundWithAccuracy .binary64 sign mantissa exponent accuracy) := by
  unfold roundWithAccuracy
  dsimp only
  split <;> rfl

private theorem normalize_positive {whole : Int} (natural : 0 ≤ whole) (exponent : Int) :
    Signed .positive (Float.Model.UnpackedFloat.normalize .binary64 whole exponent .positive) := by
  unfold Float.Model.UnpackedFloat.normalize
  rcases natural.lt_or_eq with positive | zero
  · rw [compare_gt_iff_gt.mpr positive]
    exact round_signed ..
  · rw [compare_eq_iff_eq.mpr zero.symm]
    rfl

theorem mul_positive (first : value? x = some p) (second : value? y = some q) (positive : Positive x)
    (other : Positive y) : Positive (x * y) := by
  rw [Positive, unpack_mul]
  apply unpack_pack_signed
  rcases positive_cases first positive with number | ⟨_, _, _, number⟩
  all_goals
    rcases positive_cases second other with otherNumber | ⟨_, _, _, otherNumber⟩
    all_goals rw [number, otherNumber]
  · rfl
  · rfl
  · rfl
  · exact round_signed ..

theorem div_positive (first : value? x = some p) (second : value? y = some q) (positive : Positive x)
    (size : 0 < q) : Positive (x / y) := by
  obtain ⟨_, _, _, otherNumber⟩ := finite_of_value second size
  rw [Positive, unpack_div]
  apply unpack_pack_signed
  rcases positive_cases first positive with number | ⟨_, _, _, number⟩
  all_goals rw [number, otherNumber]
  · rfl
  · exact round_signed ..

/-- A sum that is not negative is positive, unless two negative zeros are added. -/
theorem add_positive (first : value? x = some p) (second : value? y = some q) (size : 0 ≤ p + q)
    (positive : Positive x ∨ Positive y) : Positive (x + y) := by
  have unpacked := unpack_add x y
  rcases value_cases first with ⟨sign, number, rfl⟩ | ⟨_, _, _, _, number, _, _⟩
  · rcases value_cases second with ⟨otherSign, otherNumber, rfl⟩ | ⟨_, _, _, _, otherNumber, _, _⟩
    · rw [Positive, Positive, number, otherNumber] at positive
      rw [Positive, unpacked, number, otherNumber]
      apply unpack_pack_signed
      rcases positive with same | same <;> cases same
      · cases otherSign <;> rfl
      · cases sign <;> rfl
    · have other := value_nonzero second otherNumber
      have near := near_add first second
      rw [zero_add] at near size
      exact positive_of_value (near.value second) (lt_of_le_of_ne size other.symm)
  · have nonzero := value_nonzero first number
    rcases value_cases second with ⟨_, _, rfl⟩ | ⟨_, _, _, _, otherNumber, _, _⟩
    · have near := near_add first second
      rw [add_zero] at near size
      exact positive_of_value (near.value first) (lt_of_le_of_ne size nonzero.symm)
    · obtain ⟨whole, exponent, sum, normal⟩ := add_finite first second nonzero (value_nonzero second otherNumber)
      rw [Positive, normal]
      apply unpack_pack_signed
      apply normalize_positive
      have unit : (0 : ℚ) < 2 ^ exponent := by positivity
      rw [← sum] at size
      exact_mod_cast nonneg_of_mul_nonneg_left size unit

end Arithmetic

section Least

/-- The least double above zero. All doubles are whole multiples of it. -/
def least : Float := Float.ofBits 1

theorem value_least : value? least = some (2 ^ (-1074 : Int)) := by
  have unpacked : least.toModel.unpack = .finite .positive 1 (-1074) (by decide) := rfl
  rw [value_finite unpacked, Sign.apply, Nat.cast_one, Int.cast_one, one_mul]

theorem multiple (found : value? x = some p) : ∃ whole : Int, p = whole * 2 ^ (-1074 : Int) := by
  rcases value_cases found with ⟨_, _, rfl⟩ | ⟨sign, mantissa, exponent, _, _, ⟨_, low, _⟩, rfl⟩
  · exact ⟨0, by simp⟩
  · obtain ⟨count, rfl⟩ := Int.le.dest low
    refine ⟨sign.apply 1 * (mantissa * 2 ^ count), ?_⟩
    rw [zpow_add₀ two_ne_zero, zpow_natCast]
    generalize (2 : ℚ) ^ (-1074 : Int) = unit
    push_cast
    ring

/-- A sum below zero does not come out as a zero. -/
theorem sum_negative (first : value? x = some p) (second : value? y = some q) (negative : p + q < 0) :
    Float.le (x + y) (-least) = true := by
  refine (near_add first second (-least) _ (value_neg value_least)).2 ?_
  obtain ⟨whole, rfl⟩ := multiple first
  obtain ⟨other, rfl⟩ := multiple second
  have unit : (0 : ℚ) < 2 ^ (-1074 : Int) := by positivity
  rw [← add_mul] at negative ⊢
  have below : whole + other < 0 := by exact_mod_cast neg_of_mul_neg_left negative unit.le
  have step : ((whole + other : Int) : ℚ) ≤ (-1 : Int) := by exact_mod_cast (by omega : whole + other ≤ -1)
  push_cast at step
  calc (whole + other : ℚ) * 2 ^ (-1074 : Int) ≤ -1 * 2 ^ (-1074 : Int) := by gcongr
    _ = -2 ^ (-1074 : Int) := neg_one_mul _

/-- A difference to a size that is not zero is no negative zero. -/
theorem sub_signed (found : value? y = some q) (size : 0 < q) : (x - y).toModel.unpack ≠ .zero .negative := by
  intro zero
  have nothing : value? (x - y) = some 0 := by
    rw [value?, zero]
    rfl
  have unpacked := unpack_sub x y
  obtain ⟨_, _, _, other⟩ := finite_of_value found size
  cases first : value? x with
  | some p =>
    rw [sub_eq] at zero nothing
    have opposite := value_neg found
    rcases lt_or_ge (p + -q) 0 with below | above
    · have low := (le_iff nothing (value_neg value_least)).mp (sum_negative first opposite below)
      exact absurd low (by simp)
    · have positive := positive_of_value first (by linarith)
      have sum := add_positive first opposite above (Or.inl positive)
      rw [Positive, zero] at sum
      cases sum
  | none =>
    unfold value? at first
    cases number : x.toModel.unpack with
    | zero | finite => rw [number] at first; cases first
    | notANumber | infinity =>
      rw [zero, number, other] at unpacked
      have kept := unpacked.trans (unpack_pack trivial)
      cases kept

/-- A product with a number that is at least 1 is no smaller. So it is no negative zero
if the other factor is none. -/
theorem mul_signed (signed : x.toModel.unpack ≠ .zero .negative) (found : value? y = some q) (least : 1 ≤ q) :
    (x * y).toModel.unpack ≠ .zero .negative := by
  intro zero
  have nothing : value? (x * y) = some 0 := by
    rw [value?, zero]
    rfl
  have unpacked := unpack_mul x y
  obtain ⟨_, _, _, otherNumber⟩ := finite_of_value found (zero_lt_one.trans_le least)
  cases number : x.toModel.unpack with
  | notANumber | infinity =>
    rw [zero, number, otherNumber] at unpacked
    have kept := unpacked.trans (unpack_pack trivial)
    cases kept
  | zero sign =>
    rw [zero, number, otherNumber] at unpacked
    have kept := unpacked.trans (unpack_pack trivial)
    cases sign with
    | positive => cases kept
    | negative => exact signed number
  | finite sign mantissa exponent positive =>
    have first := value_finite number
    have nonzero := value_nonzero first number
    generalize (sign.apply mantissa * 2 ^ exponent : ℚ) = p at first nonzero
    have near := near_mul first found x p first
    rcases lt_or_gt_of_ne nonzero with below | above
    · have high := (le_iff nothing first).mp (near.2 (mul_le_of_one_le_right below.le least))
      exact absurd high (not_le.mpr below)
    · have low := (le_iff first nothing).mp (near.1 (le_mul_of_one_le_right above.le least))
      exact absurd low (not_le.mpr above)

end Least

section Pattern

private theorem fields (bits : BitVec Format.binary64.numBits) :
    bits.toNat = (unpackSign bits).toNat * 2 ^ 63 + (unpackExponent bits).toNat * 2 ^ 52 + (unpackMantissa bits).toNat := by
  have size : bits.toNat < 2 ^ 64 := bits.isLt
  have sign : (unpackSign bits).toNat = bits.toNat / 2 ^ 63 % 2 := by
    simp [unpackSign, Nat.shiftRight_eq_div_pow]
  have exponent : (unpackExponent bits).toNat = bits.toNat / 2 ^ 52 % 2 ^ 11 := by
    simp [unpackExponent, Nat.shiftRight_eq_div_pow]
  have mantissa : (unpackMantissa bits).toNat = bits.toNat % 2 ^ 52 := by
    simp [unpackMantissa, Nat.shiftRight_eq_div_pow]
  rw [sign, exponent, mantissa]
  omega

private theorem sign_bit {bits : BitVec Format.binary64.numBits} {sign : Sign}
    (signed : Signed sign (unpack .binary64 bits)) : unpackSign bits = sign.toBitVec := by
  have same : Sign.ofBitVec (unpackSign bits) = sign := by
    unfold unpack at signed
    dsimp only at signed
    split at signed
    · split at signed
      · exact signed
      · exact absurd signed id
    · split at signed
      · split at signed <;> exact signed
      · exact signed
  rw [← same]
  unfold Sign.ofBitVec
  split
  next zero => exact zero
  next one => exact (BitVec.eq_zero_or_eq_one _).resolve_left one

private theorem unpack_pattern {bits : BitVec Format.binary64.numBits} {sign : Sign} {p : ℚ}
    (found : unpacked? (unpack .binary64 bits) = some p) (signed : Signed sign (unpack .binary64 bits)) :
    ∃ (mantissa : Nat) (exponent : Int), p = sign.apply 1 * (mantissa * 2 ^ exponent) ∧ mantissa < 2 ^ 53 ∧
      -1074 ≤ exponent ∧ exponent ≤ 971 ∧ (2 ^ 52 ≤ mantissa ∨ exponent = -1074) ∧
      (bits.toNat : Int) = sign.toBitVec.toNat * 2 ^ 63 + ((exponent + 1074) * 2 ^ 52 + mantissa) := by
  have pattern := fields bits
  have bit := sign_bit signed
  have fraction : (unpackMantissa bits).toNat < 2 ^ 52 := (unpackMantissa bits).isLt
  have field : (unpackExponent bits).toNat < 2 ^ 11 := (unpackExponent bits).isLt
  have bias : Format.binary64.exponentBias = 1023 := rfl
  unfold unpack at found
  dsimp only at found
  rw [bit, Sign.ofBitVec_toBitVec] at found
  rw [bit] at pattern
  split at found
  · split at found <;> cases found
  next finite =>
    have large : (unpackExponent bits).toNat ≠ 2047 := fun same => finite (BitVec.eq_of_toNat_eq same)
    split at found
    next least =>
      rw [least, BitVec.toNat_zero] at pattern
      refine ⟨(unpackMantissa bits).toNat, -1074, ?_, by omega, le_rfl, by omega, Or.inr rfl, by omega⟩
      split at found
      next zero =>
        cases found
        rw [zero]
        simp
      next nonzero =>
        cases found
        cases sign <;> simp [Sign.apply, least, bias]
    next normal =>
      have small : (unpackExponent bits).toNat ≠ 0 := fun same => normal (BitVec.eq_of_toNat_eq same)
      cases found
      refine ⟨2 ^ 52 + (unpackMantissa bits).toNat, (unpackExponent bits).toNat - 1075, ?_, by omega, by omega,
        by omega, Or.inl (by omega), by omega⟩
      rw [implicit_bit, bias]
      cases sign with
      | positive => simp [Sign.apply]
      | negative =>
        simp [Sign.apply]
        ring

/-- The key of a double counts its pattern up from zero, or down from below zero. -/
private theorem orderKey_eq {sign : Sign} (found : value? x = some p) (signed : Signed sign x.toModel.unpack) :
    ∃ (mantissa : Nat) (exponent : Int), p = sign.apply 1 * (mantissa * 2 ^ exponent) ∧ mantissa < 2 ^ 53 ∧
      -1074 ≤ exponent ∧ (2 ^ 52 ≤ mantissa ∨ exponent = -1074) ∧
      Binary64.orderKey x = match sign with
        | .positive => (exponent + 1074) * 2 ^ 52 + mantissa
        | .negative => -1 - ((exponent + 1074) * 2 ^ 52 + mantissa) := by
  have bound : Nat.pow 2 63 = 2 ^ 63 := rfl
  obtain ⟨mantissa, exponent, same, short, least, most, shape, pattern⟩ := unpack_pattern found signed
  change (x.toBits.toNat : Int) = _ at pattern
  refine ⟨mantissa, exponent, same, short, least, shape, ?_⟩
  unfold Binary64.orderKey
  dsimp only
  cases sign with
  | positive =>
    have zero : (Sign.toBitVec .positive).toNat = 0 := rfl
    rw [zero] at pattern
    dsimp only
    rw [if_pos (by omega)]
    omega
  | negative =>
    have one : (Sign.toBitVec .negative).toNat = 1 := rfl
    rw [one] at pattern
    dsimp only
    rw [if_neg (by omega), bound]
    omega

theorem isNegative_positive (positive : Positive x) : Binary64.isNegative x = false := by
  let bits : BitVec Format.binary64.numBits := x.toModel.toBits.toBitVec
  have pattern := fields bits
  have fraction : (unpackMantissa bits).toNat < 2 ^ 52 := (unpackMantissa bits).isLt
  have field : (unpackExponent bits).toNat < 2 ^ 11 := (unpackExponent bits).isLt
  have zero : (Sign.toBitVec .positive).toNat = 0 := rfl
  have bound : Nat.pow 2 63 = 2 ^ 63 := rfl
  rw [sign_bit positive, zero] at pattern
  have short : x.toBits.toNat < 2 ^ 63 := by
    change bits.toNat < 2 ^ 63
    omega
  exact decide_eq_false (by omega)

private theorem magnitude_lt_iff {mantissa other : Nat} {exponent otherExponent : Int} (short : mantissa < 2 ^ 53)
    (otherShort : other < 2 ^ 53) (shape : 2 ^ 52 ≤ mantissa ∨ exponent = -1074)
    (otherShape : 2 ^ 52 ≤ other ∨ otherExponent = -1074) (least : -1074 ≤ exponent) (otherLeast : -1074 ≤ otherExponent) :
    (mantissa : ℚ) * 2 ^ exponent < other * 2 ^ otherExponent ↔
      (exponent + 1074) * 2 ^ 52 + mantissa < (otherExponent + 1074) * 2 ^ 52 + other := by
  rw [← compare_lt_iff_lt, magnitude_compare short otherShort shape otherShape least otherLeast, Ordering.then_eq_lt,
    compare_lt_iff_lt, compare_eq_iff_eq, compare_lt_iff_lt]
  -- A step of the exponent is `2 ^ 52` in the pattern, and no two mantissas in place differ by as much.
  omega

private theorem negative_of_signed (found : value? x = some p) (negative : Signed .negative x.toModel.unpack)
    (filled : x.toModel.unpack ≠ .zero .negative) : p < 0 := by
  rcases value_cases found with ⟨sign, number, _⟩ | ⟨sign, mantissa, exponent, positive, number, _, rfl⟩
  all_goals
    rw [number] at negative filled
    cases negative
  · exact absurd rfl filled
  · simpa [Sign.apply] using magnitude_pos exponent positive

theorem exists_sign (found : value? x = some p) : ∃ sign, Signed sign x.toModel.unpack := by
  rcases value_cases found with ⟨sign, number, _⟩ | ⟨sign, _, _, _, number, _, _⟩ <;> exact ⟨sign, number ▸ rfl⟩

/-- A smaller value has a smaller pattern, also next to a negative zero. -/
theorem orderKey_mono (first : value? x = some p) (second : value? y = some q) (less : p < q) :
    Binary64.orderKey x < Binary64.orderKey y := by
  obtain ⟨sign, signed⟩ := exists_sign first
  obtain ⟨otherSign, otherSigned⟩ := exists_sign second
  obtain ⟨mantissa, exponent, size, short, least, shape, key⟩ := orderKey_eq first signed
  obtain ⟨other, otherExponent, otherSize, otherShort, otherLeast, otherShape, otherKey⟩ := orderKey_eq second otherSigned
  have natural : (0 : ℚ) ≤ mantissa * 2 ^ exponent := by positivity
  have otherNatural : (0 : ℚ) ≤ other * 2 ^ otherExponent := by positivity
  rw [key, otherKey]
  rw [size, otherSize] at less
  cases sign with
  | positive =>
    cases otherSign with
    | positive =>
      rw [Sign.apply, Int.cast_one, one_mul, one_mul] at less
      exact (magnitude_lt_iff short otherShort shape otherShape least otherLeast).mp less
    | negative =>
      rw [Sign.apply, Sign.apply, Int.cast_neg, Int.cast_one, one_mul, neg_one_mul] at less
      linarith
  | negative =>
    cases otherSign with
    | positive => dsimp only; omega
    | negative =>
      rw [Sign.apply, Int.cast_neg, Int.cast_one, neg_one_mul, neg_one_mul, neg_lt_neg_iff] at less
      have below := (magnitude_lt_iff otherShort short otherShape shape otherLeast least).mp less
      dsimp only
      omega

/-- A value and a sign have one pattern. -/
theorem orderKey_congr {sign : Sign} (first : value? x = some p) (second : value? y = some p)
    (signed : Signed sign x.toModel.unpack) (other : Signed sign y.toModel.unpack) :
    Binary64.orderKey x = Binary64.orderKey y := by
  obtain ⟨mantissa, exponent, size, short, least, shape, key⟩ := orderKey_eq first signed
  obtain ⟨next, otherExponent, otherSize, otherShort, otherLeast, otherShape, otherKey⟩ := orderKey_eq second other
  have same : (mantissa : ℚ) * 2 ^ exponent = next * 2 ^ otherExponent := by
    rw [size] at otherSize
    cases sign <;> simpa [Sign.apply] using otherSize
  have below := (magnitude_lt_iff short otherShort shape otherShape least otherLeast).not.mp same.not_lt
  have above := (magnitude_lt_iff otherShort short otherShape shape otherLeast least).not.mp same.not_gt
  rw [key, otherKey]
  cases sign <;> dsimp only <;> omega

/-- The key of a double tells it from every other. -/
theorem orderKey_injective {x y : Float} (same : Binary64.orderKey x = Binary64.orderKey y) : x = y := by
  have bound : Nat.pow 2 63 = 2 ^ 63 := rfl
  have patterns : x.toBits.toNat = y.toBits.toNat := by
    unfold Binary64.orderKey at same
    dsimp only at same
    split at same <;> split at same <;> omega
  obtain ⟨⟨bits, _⟩⟩ := x
  obtain ⟨⟨others, _⟩⟩ := y
  have equal : bits = others := UInt64.toNat_inj.mp patterns
  subst equal
  rfl

/-- A value goes with one double of each sign. -/
theorem eq_of_signed {sign : Sign} (first : value? x = some p) (second : value? y = some p)
    (signed : Signed sign x.toModel.unpack) (other : Signed sign y.toModel.unpack) : x = y :=
  orderKey_injective (orderKey_congr first second signed other)

theorem nonneg_of_positive (found : value? x = some p) (positive : Positive x) : 0 ≤ p := by
  obtain ⟨mantissa, exponent, size, _⟩ := orderKey_eq found positive
  rw [size, Sign.apply, Int.cast_one, one_mul]
  positivity

theorem nonpos_of_negative (found : value? x = some p) (negative : Signed .negative x.toModel.unpack) : p ≤ 0 := by
  obtain ⟨mantissa, exponent, size, _⟩ := orderKey_eq found negative
  have natural : (0 : ℚ) ≤ mantissa * 2 ^ exponent := by positivity
  rw [size, Sign.apply, Int.cast_neg, Int.cast_one, neg_one_mul]
  exact neg_nonpos.mpr natural

/-- The order by patterns is the order of the values, apart from negative zeros. -/
theorem totalOrder_value (first : value? x = some p) (second : value? y = some q)
    (filled : x.toModel.unpack ≠ .zero .negative) (otherFilled : y.toModel.unpack ≠ .zero .negative) :
    Binary64.totalOrder x y = compare p q := by
  unfold Binary64.totalOrder
  rcases lt_trichotomy p q with less | rfl | more
  · rw [compare_lt_iff_lt.mpr less, compare_lt_iff_lt.mpr (orderKey_mono first second less)]
  · rw [compare_eq_iff_eq.mpr rfl, compare_eq_iff_eq]
    obtain ⟨sign, signed⟩ := exists_sign first
    obtain ⟨otherSign, otherSigned⟩ := exists_sign second
    cases sign with
    | positive =>
      cases otherSign with
      | positive => exact orderKey_congr first second signed otherSigned
      | negative =>
        have below := negative_of_signed second otherSigned otherFilled
        exact absurd (nonneg_of_positive first signed) (not_le.mpr below)
    | negative =>
      cases otherSign with
      | positive =>
        have below := negative_of_signed first signed filled
        exact absurd (nonneg_of_positive second otherSigned) (not_le.mpr below)
      | negative => exact orderKey_congr first second signed otherSigned
  · rw [compare_gt_iff_gt.mpr more, compare_gt_iff_gt.mpr (orderKey_mono second first more)]

end Pattern

end ClipRank.Proofs.SignedDoubles
