import ClipRank.Json.Numeral
import ClipRank.Proofs.NearestDoubles
import ClipRank.Proofs.TextValues

/-! Decimals as doubles. Plain text gives the double nearest to a decimal, and a number
literal the double of its digits, scaled once by a power of ten. Both come to the same for a
zero, for a word, and for at most 53 bits with a power of ten that is a double. -/

namespace ClipRank.Proofs.DecimalDoubles
open Float.Model (Format UnpackedFloat)
open Float.Model.UnpackedFloat DoubleValue WholeDoubles Rounding SignedDoubles NearestDoubles
open Json Binary64

section Word
variable {word : Nat}

private theorem toNat_word (fits : word < 2 ^ 64) : word.toUInt64.toNat = word :=
  Nat.mod_eq_of_lt fits

private theorem ofScientific_short (short : word < 2 ^ 53) : Float.ofScientific word false 0 = word.toUInt64.toFloat := by
  have unfolded : Float.ofScientific word false 0 = word.toUInt64.toFloat * 1.0 := dif_pos ⟨short, Nat.zero_le _⟩
  have same := toNat_word (by omega : word < 2 ^ 64)
  have found : value? word.toUInt64.toFloat = some (word.toUInt64.toNat : ℚ) := value_toFloat (by omega)
  have product : value? (word.toUInt64.toFloat * 1.0) = some (word.toUInt64.toNat : ℚ) := by
    have near := near_mul found value_one
    rw [mul_one] at near
    exact near.value found
  have positive : Positive (word.toUInt64.toFloat * 1.0) := mul_positive found value_one (toFloat_signed _) rfl
  rw [unfolded]
  exact eq_of_signed product found positive (toFloat_signed _)

private theorem ofScientific_long (long : 2 ^ 53 ≤ word) (fits : word < 2 ^ 64) :
    Float.ofScientific word false 0 = word.toUInt64.toFloat := by
  have unpacked : (Float.ofScientific word false 0).toModel.unpack = unpack .binary64 (pack .binary64
      (roundWithAccuracy .binary64 .positive (word * 2 ^ 53) (-(53 : Nat)) .exact)) := by
    have decimal := TextValues.unpacked_decimal (by omega : word ≠ 0) (Nat.zero_le 308)
    rw [Nat.pow_zero, Nat.mul_one] at decimal
    unfold Float.ofScientific
    rw [dif_neg (by omega)]
    exact congrArg (fun number => unpack .binary64 (pack .binary64 number)) decimal
  have found : value? (Float.ofScientific word false 0) = some (nearest word : ℚ) := by
    rw [value?, unpacked]
    exact round_nearest long fits 53
  have size : (0 : ℚ) < nearest word := by exact_mod_cast nearest_pos (by omega : 0 < word)
  have other := value_nearest word.toUInt64
  rw [toNat_word fits] at other
  exact eq_of_signed found other (positive_of_value found size) (toFloat_signed _)

private theorem digits_few {digits : Nat} (fits : digits < 2 ^ 64) : (Nat.toDigits 10 digits).length ≤ 20 :=
  (Nat.length_toDigits_le_iff (by decide) (by decide)).mpr (fits.trans (by decide))

/-- A word in digits denotes the double that the word becomes. -/
theorem ofDecimal_word (fits : word < 2 ^ 64) : ofDecimal word 0 = word.toUInt64.toFloat := by
  rcases Nat.eq_zero_or_pos word with rfl | positive
  · rfl
  have few := digits_few fits
  unfold ofDecimal
  dsimp only
  rw [if_neg positive.ne', if_neg (by omega), if_neg (by omega)]
  rcases Nat.lt_or_ge word (2 ^ 53) with short | long
  · exact ofScientific_short short
  · exact ofScientific_long long fits

end Word

section Scaled

/-- The powers of ten that are doubles. -/
private theorem powerOfTen_table : ∀ exponent : Fin 23,
    Numeral.powerOfTen exponent = Float.exactlyRepresentablePowersOfTen[exponent] := by
  decide

private theorem ofScientific_scaled {digits exponent : Nat} (short : digits < 2 ^ 53) (most : exponent ≤ 22) :
    Float.ofScientific digits false exponent = digits.toUInt64.toFloat * Numeral.powerOfTen exponent ∧
      Float.ofScientific digits true exponent = digits.toUInt64.toFloat / Numeral.powerOfTen exponent := by
  have table : Numeral.powerOfTen exponent = _ := powerOfTen_table ⟨exponent, by omega⟩
  rw [table]
  exact ⟨dif_pos ⟨short, most⟩, dif_pos ⟨short, most⟩⟩

theorem scale_down {digits exponent : Nat} (least : 0 < exponent) (most : exponent ≤ 308) :
    Numeral.scale? digits (-exponent) = some (digits.toUInt64.toFloat / Numeral.powerOfTen exponent) := by
  unfold Numeral.scale? Numeral.scaleDown
  dsimp only
  rw [if_pos (by omega), Int.natAbs_neg, Int.natAbs_natCast, if_pos most]

/-- Up to 53 bits and with a power of ten that is a double, the nearest double is found by one
operation. -/
theorem scale_exact {digits : Nat} {exponent : Int} {x : Float} (filled : digits ≠ 0) (short : digits < 2 ^ 53)
    (near : exponent.natAbs ≤ 22) (scaled : Numeral.scale? digits exponent = some x) : x = ofDecimal digits exponent := by
  have few := digits_few (by omega : digits < 2 ^ 64)
  obtain ⟨up, down⟩ := ofScientific_scaled short near
  unfold ofDecimal
  dsimp only
  rw [if_neg filled, if_neg (by omega), if_neg (by omega)]
  by_cases negative : exponent < 0
  · have same : exponent = -(exponent.natAbs : Int) := by omega
    rw [same, scale_down (by omega) (by omega)] at scaled
    rw [decide_eq_true negative, down]
    exact (Option.some.inj scaled).symm
  · have same : exponent.toNat = exponent.natAbs := by omega
    unfold Numeral.scale? at scaled
    dsimp only at scaled
    rw [if_neg negative, if_pos (by omega), same, ← up] at scaled
    rw [decide_eq_false negative]
    exact (Option.some.inj (Option.ite_none_right_eq_some.mp scaled).2).symm

end Scaled

section Zero

private theorem zero_scaled {exponent : Nat} (most : exponent ≤ 308) :
    0.0 * Numeral.powerOfTen exponent = 0.0 ∧ 0.0 / Numeral.powerOfTen exponent = 0.0 := by
  obtain ⟨q, found, least⟩ := TextValues.powerOfTen_least most
  have size : 0 < q := zero_lt_one.trans_le least
  have product := near_mul value_zero found
  have quotient := near_div value_zero found size.ne'
  rw [zero_mul] at product
  rw [zero_div] at quotient
  constructor
  · exact eq_of_signed (product.value value_zero) value_zero
      (mul_positive value_zero found rfl (positive_of_value found size)) rfl
  · exact eq_of_signed (quotient.value value_zero) value_zero (div_positive value_zero found rfl size) rfl

/-- A zero stays a zero, whatever the power of ten. -/
theorem scale_zero {exponent : Int} {x : Float} (scaled : Numeral.scale? 0 exponent = some x) : x = 0.0 := by
  have zero : (0 : Nat).toUInt64.toFloat = 0.0 := rfl
  unfold Numeral.scale? at scaled
  dsimp only at scaled
  rw [zero] at scaled
  split at scaled
  · unfold Numeral.scaleDown at scaled
    split at scaled
    next most => exact (Option.some.inj scaled).symm.trans (zero_scaled most).2
    next => exact (Option.some.inj scaled).symm
  · split at scaled
    next most =>
      have same := (Option.ite_none_right_eq_some.mp scaled).2
      rw [(zero_scaled (by omega)).1] at same
      exact (Option.some.inj same).symm
    next => exact (Option.some.inj scaled).symm

end Zero

end ClipRank.Proofs.DecimalDoubles
