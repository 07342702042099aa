import Mathlib.Algebra.Order.Floor.Semifield
import Mathlib.Data.Rat.Floor
import ClipRank.Proofs.DoubleValue

/-! Doubles that are whole numbers, and the passage between them and words. A word
below `2 ^ 53` is a double exactly, and a double gives the word below it. -/

namespace ClipRank.Proofs.WholeDoubles
open Float.Model (Format UnpackedFloat totalExponent)
open Float.Model.UnpackedFloat DoubleValue

theorem shift_none {mantissa : Nat} {exponent : Int}
    (target : Format.binary64.targetExponent (totalExponent mantissa exponent) ≤ exponent) :
    shiftToTargetExponent .binary64 mantissa exponent .exact = (⟨mantissa, false, false⟩, exponent) := by
  have nothing : (Format.binary64.targetExponent (totalExponent mantissa exponent) - exponent).toNat = 0 := by omega
  unfold shiftToTargetExponent shiftToExponent
  dsimp only
  rw [nothing]
  simp [ExtendedMantissa.ofMantissaAndAccuracy, HShiftRight.hShiftRight, Nat.repeat]

theorem target_eq (mantissa : Nat) (exponent : Int) :
    Format.binary64.targetExponent (totalExponent mantissa exponent) =
      max (mantissa.log2 + 1 + exponent - 53) (-1074) :=
  rfl

private theorem round_highest (sign : Sign) {mantissa : Nat} {exponent : Int} (highest : 2 ^ 52 ≤ mantissa)
    (short : mantissa < 2 ^ 53) (least : -1074 ≤ exponent) :
    roundWithAccuracy .binary64 sign mantissa exponent .exact =
      .finite sign mantissa exponent (Nat.lt_of_lt_of_le (by decide) highest) := by
  have log : mantissa.log2 = 52 := (Nat.log2_eq_iff (by omega)).mpr ⟨highest, short⟩
  have kept : shiftToTargetExponent .binary64 mantissa exponent .exact = (⟨mantissa, false, false⟩, exponent) := by
    apply shift_none
    rw [target_eq, log]
    omega
  have rounded : ExtendedMantissa.roundedMantissa ⟨mantissa, false, false⟩ = mantissa := rfl
  unfold roundWithAccuracy
  simp only [kept, rounded]
  exact dif_neg (by omega)

/-- A word of at most 53 bits is a double. -/
private theorem round_whole {word : Nat} (positive : 0 < word) (short : word < 2 ^ 53) :
    ∃ number, Float.Model.UnpackedFloat.round .binary64 .positive word 0 = number ∧ Canonical number ∧
      unpacked? number = some (word : ℚ) := by
  have log : word.log2 < 53 := (Nat.log2_lt (by omega)).mpr short
  have below := Nat.log2_self_le (Nat.ne_of_gt positive)
  have above := Nat.lt_log2_self (n := word)
  -- Rounding shifts the word up until its highest bit is the one that a double leaves out.
  let gap := 52 - word.log2
  have highest : 2 ^ 52 ≤ word * 2 ^ gap := by
    calc 2 ^ 52 = 2 ^ word.log2 * 2 ^ gap := by rw [← Nat.pow_add]; congr 1; omega
      _ ≤ word * 2 ^ gap := Nat.mul_le_mul_right _ below
  have fits : word * 2 ^ gap < 2 ^ 53 := by
    calc word * 2 ^ gap < 2 ^ (word.log2 + 1) * 2 ^ gap := Nat.mul_lt_mul_of_pos_right above (Nat.two_pow_pos _)
      _ = 2 ^ 53 := by rw [← Nat.pow_add]; congr 1; omega
  have target : Format.binary64.targetExponent (totalExponent word 0) = -(gap : Int) := by
    rw [target_eq]
    omega
  have rounded : Float.Model.UnpackedFloat.round .binary64 .positive word 0 =
      .finite .positive (word * 2 ^ gap) (-gap) (Nat.lt_of_lt_of_le (by decide) highest) := by
    unfold Float.Model.UnpackedFloat.round decreaseExponent
    rw [target]
    simp only [Nat.shiftLeft_eq, sub_neg_eq_add, zero_add, Int.toNat_natCast, zero_sub]
    exact round_highest _ highest fits (by omega)
  refine ⟨_, rounded, ⟨fits, by omega, by omega, Or.inl highest⟩, ?_⟩
  simp [unpacked?, Sign.apply]

theorem value_toFloat {word : UInt64} (short : word.toNat < 2 ^ 53) :
    value? word.toFloat = some (word.toNat : ℚ) := by
  change unpacked?
    (unpack .binary64 (pack .binary64 (Float.Model.UnpackedFloat.normalize .binary64 word.toNat 0 .positive))) = _
  unfold Float.Model.UnpackedFloat.normalize
  rcases Nat.eq_zero_or_pos word.toNat with zero | positive
  · rw [zero]
    rfl
  · rw [Int.compare_eq_gt.mpr (by omega)]
    obtain ⟨number, rounded, canonical, value⟩ := round_whole positive short
    rw [Int.toNat_natCast, rounded, unpack_pack canonical, value]

/-- The sign of a number that is not a NaN. -/
def Signed (sign : Sign) : UnpackedFloat → Prop
  | .notANumber => False
  | .infinity other | .zero other | .finite other _ _ _ => other = sign

private theorem unpack_signed (sign : Sign) {field : BitVec 11} (finite : field ≠ -1#11) (fraction : BitVec 52) :
    Signed sign (unpack .binary64 (packComponents .binary64 sign field fraction)) := by
  unfold unpack
  simp only [unpackMantissa_packComponents, unpackExponent_packComponents, unpackSign_packComponents,
    Sign.ofBitVec_toBitVec, finite, if_false]
  split
  · split <;> rfl
  · rfl

/-- Packing keeps the sign, also of a number that is too large or has too many
digits. -/
theorem unpack_pack_signed {sign : Sign} {number : UnpackedFloat} (signed : Signed sign number) :
    Signed sign (unpack .binary64 (pack .binary64 number)) := by
  cases number with
  | notANumber => exact signed
  | infinity other => cases signed; cases sign <;> rfl
  | zero other => cases signed; rw [pack, unpack_packedZero]; rfl
  | finite other mantissa exponent positive =>
    cases signed
    unfold pack
    dsimp only
    split
    · cases sign <;> rfl
    next fits =>
      split
      · refine unpack_signed sign (fun last => ?_) _
        have value := congrArg BitVec.toNat last
        have ones : (-1#11).toNat = 2047 := rfl
        rw [BitVec.toNat_ofNat, ones] at value
        omega
      · exact unpack_signed sign (by decide) _

theorem toFloat_signed (word : UInt64) : Signed .positive word.toFloat.toModel.unpack := by
  change Signed .positive
    (unpack .binary64 (pack .binary64 (Float.Model.UnpackedFloat.normalize .binary64 word.toNat 0 .positive)))
  apply unpack_pack_signed
  unfold Float.Model.UnpackedFloat.normalize
  rcases Nat.eq_zero_or_pos word.toNat with zero | positive
  · rw [zero]
    rfl
  · rw [Int.compare_eq_gt.mpr (by omega)]
    unfold Float.Model.UnpackedFloat.round roundWithAccuracy
    dsimp only
    split <;> rfl

/-- No word with a minus reaches 1. -/
theorem not_one_le_neg (word : UInt64) : Float.le 1.0 (-word.toFloat) = false := by
  have signed := toFloat_signed word
  have one : (1.0 : Float).toModel.unpack = .finite .positive (2 ^ 52) (-52) (by decide) := rfl
  change decide (((1.0 : Float).toModel.unpack.le (-word.toFloat).toModel.unpack) = true) = false
  rw [unpack_neg, one]
  cases number : word.toFloat.toModel.unpack with
  | notANumber => rw [number] at signed; exact absurd signed id
  | infinity sign | zero sign | finite sign => rw [number] at signed; cases signed; rfl

theorem shift_mantissa (extended : ExtendedMantissa) (count : Nat) :
    (extended >>> count).mantissa = extended.mantissa / 2 ^ count := by
  change (count.repeat ExtendedMantissa.shiftRightOne extended).mantissa = _
  induction count with
  | zero => simp [Nat.repeat]
  | succ count ih =>
    rw [Nat.repeat, ExtendedMantissa.shiftRightOne, ih, Nat.div_div_eq_div_mul, Nat.pow_succ]

private theorem floor_scaled (mantissa : Nat) (exponent : Int) :
    ⌊(mantissa : ℚ) * 2 ^ exponent⌋₊ = mantissa * 2 ^ exponent.toNat / 2 ^ (-exponent).toNat := by
  rcases Int.le_total 0 exponent with natural | negative
  · obtain ⟨size, rfl⟩ := Int.eq_ofNat_of_zero_le natural
    have whole : (mantissa : ℚ) * 2 ^ (size : Int) = ((mantissa * 2 ^ size : Nat) : ℚ) := by push_cast; simp
    rw [whole, Nat.floor_natCast]
    simp
  · obtain ⟨size, same⟩ := Int.eq_ofNat_of_zero_le (Int.neg_nonneg_of_nonpos negative)
    obtain rfl : exponent = -(size : Int) := by omega
    have quotient : (mantissa : ℚ) * 2 ^ (-(size : Int)) = (mantissa : ℚ) / ((2 ^ size : Nat) : ℚ) := by
      rw [zpow_neg, zpow_natCast, div_eq_mul_inv]
      push_cast
      rfl
    rw [quotient, Nat.floor_div_eq_div]
    simp

/-- The whole part of a number is what is left of its mantissa. -/
private theorem roundToInt_eq (sign : Sign) (mantissa : Nat) (exponent : Int) :
    roundToInt sign mantissa exponent = sign.apply (⌊(mantissa : ℚ) * 2 ^ exponent⌋₊ : Nat) := by
  have gap : (0 - (exponent - (exponent - 0).toNat)).toNat = (-exponent).toNat := by omega
  unfold roundToInt decreaseExponent shiftToExponent
  dsimp only
  rw [shift_mantissa, gap, floor_scaled, Nat.shiftLeft_eq, sub_zero]
  rfl

theorem toUInt64_eq {x : Float} {p : ℚ} (found : value? x = some p) (natural : 0 ≤ p) :
    x.toUInt64.toNat = min ⌊p⌋₊ (2 ^ 64 - 1) := by
  have whole : (x.toModel.unpack.toInt 0 (UInt64.size - 1)).toNat = ⌊p⌋₊ := by
    unfold value? at found
    cases number : x.toModel.unpack with
    | notANumber | infinity => rw [number] at found; cases found
    | zero sign => rw [number] at found; cases found; simp [UnpackedFloat.toInt]
    | finite sign mantissa exponent positive =>
      rw [number] at found
      cases found
      rw [UnpackedFloat.toInt, roundToInt_eq]
      cases sign with
      | positive => simp [Sign.apply]
      | negative => exact absurd natural (by simpa [Sign.apply] using magnitude_pos exponent positive)
  change (UInt64.ofNatClamp (x.toModel.unpack.toInt 0 (UInt64.size - 1)).toNat).toNat = _
  rw [whole]
  unfold UInt64.ofNatClamp
  have size : UInt64.size = 2 ^ 64 := rfl
  split
  next fits => rw [UInt64.toNat_ofNatLT]; omega
  next large => rw [UInt64.toNat_ofNatLT]; omega

/-- Beyond the mantissa there is nothing after the point. -/
private theorem whole_of_large {x : Float} {p : ℚ} (found : value? x = some p) (large : 2 ^ 52 ≤ |p|) :
    ∃ whole : Int, p = whole := by
  have canonical : Canonical x.toModel.unpack := unpack_canonical _
  unfold value? at found
  cases number : x.toModel.unpack with
  | notANumber | infinity => rw [number] at found; cases found
  | zero sign => rw [number] at found; cases found; exact ⟨0, by simp⟩
  | finite sign mantissa exponent positive =>
    rw [number] at found canonical
    cases found
    have size : |((Sign.apply sign mantissa : Int) : ℚ) * 2 ^ exponent| = mantissa * 2 ^ exponent := by
      have positive := magnitude_pos exponent positive
      cases sign <;> simp [Sign.apply, abs_of_pos positive]
    have natural : 0 ≤ exponent := by
      by_contra negative
      have short : (mantissa : ℚ) < 2 ^ 53 := by exact_mod_cast canonical.1
      have below : (mantissa : ℚ) * 2 ^ exponent < 2 ^ 52 := by
        calc (mantissa : ℚ) * 2 ^ exponent ≤ mantissa * 2 ^ (-1 : Int) := by
              gcongr
              · exact one_le_two
              · omega
          _ < 2 ^ 53 * 2 ^ (-1 : Int) := by gcongr
          _ = 2 ^ 52 := by norm_num
      rw [size] at large
      exact absurd large (not_le.mpr below)
    obtain ⟨count, rfl⟩ := Int.eq_ofNat_of_zero_le natural
    exact ⟨Sign.apply sign mantissa * 2 ^ count, by push_cast; simp⟩

private theorem whole_floor {p : ℚ} : ((⌊|p|⌋₊ : Nat) : ℚ) = |p| ↔ ∃ whole : Int, p = whole := by
  constructor
  · intro same
    rcases abs_choice p with positive | negative
    · exact ⟨⌊|p|⌋₊, by rw [Int.cast_natCast, same, positive]⟩
    · exact ⟨-(⌊|p|⌋₊ : Nat), by rw [Int.cast_neg, Int.cast_natCast, same, negative, neg_neg]⟩
  · rintro ⟨whole, rfl⟩
    have natural : |(whole : ℚ)| = (whole.natAbs : ℚ) := by rw [← Int.cast_abs, Int.abs_eq_natAbs, Int.cast_natCast]
    rw [natural, Nat.floor_natCast]

theorem value_zero : value? 0.0 = some 0 :=
  rfl

/-- A power of two has its highest bit only. -/
theorem value_power {x : Float} (places : Int)
    (unpacked : x.toModel.unpack = .finite .positive (2 ^ 52) (places - 52) (by decide)) :
    value? x = some (2 ^ places) := by
  have scaled : (2 : ℚ) ^ (52 : Int) * 2 ^ (places - 52) = 2 ^ places := by
    rw [← zpow_add₀ two_ne_zero, add_sub_cancel]
  rw [value_finite unpacked, ← scaled]
  rfl

theorem value_one : value? 1.0 = some 1 :=
  value_power 0 rfl

/-- From here on every double is whole. -/
theorem value_threshold : value? 4503599627370496.0 = some (2 ^ 52) :=
  value_power 52 rfl

theorem isWhole_iff {x : Float} : Binary64.isWhole x = true ↔ ∃ whole : Int, value? x = some (whole : ℚ) := by
  have finite := value_isSome x
  unfold Binary64.isWhole
  cases found : value? x with
  | none =>
    rw [found] at finite
    simp [← finite]
  | some p =>
    have beyond : decide (4503599627370496.0 ≤ x.abs) = true ↔ 2 ^ 52 ≤ |p| :=
      decide_eq_true_iff.trans (le_iff value_threshold (value_abs found))
    rw [found] at finite
    rw [← finite, Option.isSome_some, Bool.true_and, Bool.or_eq_true, beyond]
    simp only [Option.some_inj]
    rcases le_or_gt (2 ^ 52) |p| with large | small
    · simp only [large, true_or, true_iff]
      exact whole_of_large found large
    · have floor : ⌊|p|⌋₊ < 2 ^ 52 := (Nat.floor_lt (abs_nonneg p)).mpr (by exact_mod_cast small)
      have word : x.abs.toUInt64.toNat = ⌊|p|⌋₊ := by
        rw [toUInt64_eq (value_abs found) (abs_nonneg p)]
        omega
      have back : value? x.abs.toUInt64.toFloat = some (⌊|p|⌋₊ : ℚ) := by
        rw [value_toFloat (by omega), word]
      rw [beq_iff back (value_abs found), whole_floor, or_iff_right (not_le.mpr small)]

end ClipRank.Proofs.WholeDoubles
