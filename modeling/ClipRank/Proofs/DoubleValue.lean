import Mathlib
import ClipRank.Binary64.Basic

/-! Doubles as rational numbers. Every finite double has an exact value, and the
comparison of doubles is the comparison of these values: a double keeps its mantissa
as long as its exponent allows, so the larger exponent has the larger value. The lemmas
on packed doubles (`unpackSign_packComponents` and those beside it) are in no part of
Mathlib, only in the whole of it. -/

namespace ClipRank.Proofs.DoubleValue
open Float.Model (Format UnpackedFloat)
open Float.Model.UnpackedFloat

/-- The exact value, if the double is finite. -/
def unpacked? : UnpackedFloat → Option ℚ
  | .zero _ => some 0
  | .finite sign mantissa exponent _ => some (sign.apply mantissa * 2 ^ exponent)
  | _ => none

/-- A mantissa is only short of its highest bit at the least exponent. -/
def Canonical : UnpackedFloat → Prop
  | .finite _ mantissa exponent _ =>
    mantissa < 2 ^ 53 ∧ -1074 ≤ exponent ∧ exponent ≤ 971 ∧ (2 ^ 52 ≤ mantissa ∨ exponent = -1074)
  | _ => True

theorem implicit_bit (fraction : BitVec 52) : (1#1 ++ fraction).toNat = 2 ^ 52 + fraction.toNat := by
  rw [BitVec.toNat_append, ← Nat.shiftLeft_add_eq_or_of_lt fraction.isLt]
  rfl

theorem unpack_canonical (bits : BitVec Format.binary64.numBits) : Canonical (unpack .binary64 bits) := by
  have fraction : (unpackMantissa bits).toNat < 2 ^ 52 := (unpackMantissa bits).isLt
  have field : (unpackExponent bits).toNat < 2 ^ 11 := (unpackExponent bits).isLt
  have bias : Format.binary64.exponentBias = 1023 := rfl
  unfold unpack
  dsimp only
  split
  · split <;> trivial
  next finite =>
    split
    next least =>
      split
      · trivial
      · simp only [Canonical, least, bias, BitVec.toNat_ofNat]
        norm_num
        omega
    next normal =>
      have large : (unpackExponent bits).toNat ≠ 2047 := fun same => finite (BitVec.eq_of_toNat_eq same)
      have small : (unpackExponent bits).toNat ≠ 0 := fun same => normal (BitVec.eq_of_toNat_eq same)
      simp only [Canonical, bias, implicit_bit]
      omega

private theorem unpack_normal (sign : Sign) {field mantissa : Nat} (filled : 0 < field) (finite : field < 2047)
    (highest : 2 ^ 52 ≤ mantissa) (short : mantissa < 2 ^ 53) :
    unpack .binary64 (packComponents .binary64 sign (BitVec.ofNat 11 field) (BitVec.ofNat 52 mantissa)) =
      .finite sign mantissa (field - 1075) (Nat.lt_of_lt_of_le (by decide) highest) := by
  have fieldValue : (BitVec.ofNat 11 field).toNat = field := by
    rw [BitVec.toNat_ofNat]
    exact Nat.mod_eq_of_lt (Nat.lt_trans finite (by decide))
  have notLast : BitVec.ofNat 11 field ≠ -1#11 := fun same => by
    have last := congrArg BitVec.toNat same
    rw [fieldValue] at last
    exact absurd last (by simp; omega)
  have notFirst : BitVec.ofNat 11 field ≠ 0#11 := fun same => by
    have first := congrArg BitVec.toNat same
    rw [fieldValue] at first
    exact absurd first (by simp; omega)
  have whole : (1#1 ++ BitVec.ofNat 52 mantissa).toNat = mantissa := by
    rw [implicit_bit, BitVec.toNat_ofNat]
    omega
  unfold unpack
  simp only [unpackMantissa_packComponents, unpackExponent_packComponents, unpackSign_packComponents,
    Sign.ofBitVec_toBitVec, notLast, notFirst, whole, fieldValue, if_false]
  rfl

private theorem unpack_subnormal (sign : Sign) {mantissa : Nat} (positive : 0 < mantissa) (short : mantissa < 2 ^ 52) :
    unpack .binary64 (packComponents .binary64 sign 0#11 (BitVec.ofNat 52 mantissa)) =
      .finite sign mantissa (-1074) positive := by
  have whole : (BitVec.ofNat 52 mantissa).toNat = mantissa := by
    rw [BitVec.toNat_ofNat]
    exact Nat.mod_eq_of_lt short
  have filled : BitVec.ofNat 52 mantissa ≠ 0#52 := fun same => by
    have empty := congrArg BitVec.toNat same
    rw [whole, BitVec.toNat_zero] at empty
    omega
  have notLast : 0#11 ≠ -1#11 := by decide
  unfold unpack
  simp only [unpackMantissa_packComponents, unpackExponent_packComponents, unpackSign_packComponents,
    Sign.ofBitVec_toBitVec, notLast, filled, whole, if_false, if_true]
  rfl

/-- A canonical number loses nothing when it is packed into a double. -/
theorem unpack_pack {number : UnpackedFloat} (canonical : Canonical number) :
    unpack .binary64 (pack .binary64 number) = number := by
  cases number with
  | notANumber => exact unpack_packedNaN
  | infinity sign => cases sign <;> rfl
  | zero sign => exact unpack_packedZero
  | finite sign mantissa exponent positive =>
    obtain ⟨short, least, most, shape⟩ := canonical
    have finite : ¬ 2 ^ 11 ≤ (exponent + 1023 + 52).toNat + 1 := by omega
    change unpack .binary64 (if 2 ^ 11 ≤ (exponent + 1023 + 52).toNat + 1 then packedInfinity .binary64 sign
      else if mantissa.log2 + 1 = 53 then
        packComponents .binary64 sign (BitVec.ofNat 11 (exponent + 1023 + 52).toNat) (BitVec.ofNat 52 mantissa)
      else packComponents .binary64 sign 0#11 (BitVec.ofNat 52 mantissa)) = _
    rw [if_neg finite]
    by_cases normal : 2 ^ 52 ≤ mantissa
    · have log : mantissa.log2 = 52 := (Nat.log2_eq_iff (by omega)).mpr ⟨normal, short⟩
      rw [if_pos (by omega), unpack_normal _ (by omega) (by omega) normal short]
      congr 1
      omega
    · have log : mantissa.log2 < 52 := (Nat.log2_lt (by omega)).mpr (Nat.lt_of_not_le normal)
      rw [if_neg (by omega), unpack_subnormal _ positive (Nat.lt_of_not_le normal)]
      congr 1
      omega

section Order
variable {mantissa other : Nat} {exponent larger : Int}

private theorem magnitude_lt (short : mantissa < 2 ^ 53) (highest : 2 ^ 52 ≤ other) (below : exponent < larger) :
    (mantissa : ℚ) * 2 ^ exponent < other * 2 ^ larger := by
  have mantissaBound : (mantissa : ℚ) < 2 ^ 53 := by exact_mod_cast short
  have otherBound : (2 : ℚ) ^ 52 ≤ other := by exact_mod_cast highest
  calc (mantissa : ℚ) * 2 ^ exponent < 2 ^ 53 * 2 ^ exponent := by gcongr
    _ = 2 ^ 52 * 2 ^ (exponent + 1) := by rw [zpow_add_one₀ two_ne_zero]; ring
    _ ≤ 2 ^ 52 * 2 ^ larger := by
      gcongr
      · exact one_le_two
      · omega
    _ ≤ other * 2 ^ larger := by gcongr

theorem magnitude_compare (short : mantissa < 2 ^ 53) (otherShort : other < 2 ^ 53)
    (shape : 2 ^ 52 ≤ mantissa ∨ exponent = -1074) (otherShape : 2 ^ 52 ≤ other ∨ larger = -1074)
    (least : -1074 ≤ exponent) (otherLeast : -1074 ≤ larger) :
    compare ((mantissa : ℚ) * 2 ^ exponent) (other * 2 ^ larger) =
      (compare exponent larger).then (compare mantissa other) := by
  rcases lt_trichotomy exponent larger with below | same | above
  · have highest : 2 ^ 52 ≤ other := otherShape.resolve_right (by omega)
    rw [compare_lt_iff_lt.mpr (magnitude_lt short highest below), compare_lt_iff_lt.mpr below]
    rfl
  · subst same
    have positive : (0 : ℚ) < 2 ^ exponent := by positivity
    rw [compare_eq_iff_eq.mpr (rfl : exponent = exponent)]
    rcases lt_trichotomy mantissa other with less | same | more
    · rw [compare_lt_iff_lt.mpr less, compare_lt_iff_lt.mpr (by gcongr)]
      rfl
    · rw [compare_eq_iff_eq.mpr same, same, compare_eq_iff_eq.mpr rfl]
      rfl
    · rw [compare_gt_iff_gt.mpr more, compare_gt_iff_gt.mpr (by gcongr)]
      rfl
  · have highest : 2 ^ 52 ≤ mantissa := shape.resolve_right (by omega)
    rw [compare_gt_iff_gt.mpr (magnitude_lt otherShort highest above), compare_gt_iff_gt.mpr above]
    rfl

end Order

private theorem compare_neg (p q : ℚ) : compare (-p) (-q) = (compare p q).swap := by
  rcases lt_trichotomy p q with less | same | more
  · rw [compare_lt_iff_lt.mpr less, compare_gt_iff_gt.mpr (neg_lt_neg less)]
    rfl
  · subst same
    rw [compare_eq_iff_eq.mpr rfl, compare_eq_iff_eq.mpr rfl]
    rfl
  · rw [compare_gt_iff_gt.mpr more, compare_lt_iff_lt.mpr (neg_lt_neg more)]
    rfl

theorem magnitude_pos {mantissa : Nat} (exponent : Int) (positive : 0 < mantissa) :
    (0 : ℚ) < mantissa * 2 ^ exponent := by
  have cast : (0 : ℚ) < mantissa := by exact_mod_cast positive
  positivity

/-- Doubles compare as their values do. -/
theorem compare_unpacked {first second : UnpackedFloat} {p q : ℚ} (canonical : Canonical first)
    (otherCanonical : Canonical second) (firstValue : unpacked? first = some p)
    (secondValue : unpacked? second = some q) : first.compare second = some (compare p q) := by
  cases first with
  | notANumber | infinity => cases firstValue
  | zero sign =>
    cases firstValue
    cases second with
    | notANumber | infinity => cases secondValue
    | zero other =>
      cases secondValue
      rw [compare_eq_iff_eq.mpr rfl]
      rfl
    | finite other mantissa exponent positive =>
      have size := magnitude_pos exponent positive
      cases secondValue
      cases other with
      | positive => rw [compare_lt_iff_lt.mpr (by simpa [Sign.apply] using size)]; rfl
      | negative => rw [compare_gt_iff_gt.mpr (by simpa [Sign.apply] using size)]; rfl
  | finite sign mantissa exponent positive =>
    have size := magnitude_pos exponent positive
    cases firstValue
    cases second with
    | notANumber | infinity => cases secondValue
    | zero other =>
      cases secondValue
      cases sign with
      | positive => rw [compare_gt_iff_gt.mpr (by simpa [Sign.apply] using size)]; rfl
      | negative => rw [compare_lt_iff_lt.mpr (by simpa [Sign.apply] using size)]; rfl
    | finite other mantissa' exponent' positive' =>
      have size' := magnitude_pos exponent' positive'
      cases secondValue
      obtain ⟨short, least, _, shape⟩ := canonical
      obtain ⟨short', least', _, shape'⟩ := otherCanonical
      have magnitudes := magnitude_compare short short' shape shape' least least'
      cases sign with
      | positive =>
        cases other with
        | positive =>
          have same : UnpackedFloat.compare (.finite .positive mantissa exponent positive)
              (.finite .positive mantissa' exponent' positive') = some _ := rfl
          rw [same, ← magnitudes]
          simp [Sign.apply]
        | negative =>
          rw [compare_gt_iff_gt.mpr (by simpa [Sign.apply] using (neg_neg_of_pos size').trans size)]
          rfl
      | negative =>
        cases other with
        | positive =>
          rw [compare_lt_iff_lt.mpr (by simpa [Sign.apply] using (neg_neg_of_pos size).trans size')]
          rfl
        | negative =>
          have same : UnpackedFloat.compare (.finite .negative mantissa exponent positive)
              (.finite .negative mantissa' exponent' positive') = some (Ordering.swap _) := rfl
          rw [same, ← magnitudes, ← compare_neg]
          simp [Sign.apply]

/-- The exact value of a finite double. -/
def value? (x : Float) : Option ℚ := unpacked? x.toModel.unpack

theorem value_finite {x : Float} {sign : Sign} {mantissa : Nat} {exponent : Int} {positive : 0 < mantissa}
    (unpacked : x.toModel.unpack = .finite sign mantissa exponent positive) :
    value? x = some (sign.apply mantissa * 2 ^ exponent : ℚ) := by
  rw [value?, unpacked]
  rfl

theorem value_isSome (x : Float) : (value? x).isSome = x.isFinite := by
  change (unpacked? x.toModel.unpack).isSome = x.toModel.unpack.isFinite
  cases x.toModel.unpack <;> rfl

variable {x y : Float} {p q : ℚ}

private theorem compare_value (first : value? x = some p) (second : value? y = some q) :
    x.toModel.unpack.compare y.toModel.unpack = some (compare p q) :=
  compare_unpacked (unpack_canonical _) (unpack_canonical _) first second

theorem le_unpacked (x y : Float) : Float.le x y = x.toModel.unpack.le y.toModel.unpack :=
  Bool.decide_eq_true

theorem lt_unpacked (x y : Float) : Float.lt x y = x.toModel.unpack.lt y.toModel.unpack :=
  Bool.decide_eq_true

theorem le_iff (first : value? x = some p) (second : value? y = some q) : Float.le x y = true ↔ p ≤ q := by
  rw [le_unpacked, UnpackedFloat.le, compare_value first second, Option.any_some, ← Ordering.ne_gt_iff_isLE]
  exact compare_le_iff_le

theorem lt_iff (first : value? x = some p) (second : value? y = some q) : Float.lt x y = true ↔ p < q := by
  rw [lt_unpacked, UnpackedFloat.lt, compare_value first second, beq_iff_eq, Option.some_inj]
  exact compare_lt_iff_lt

theorem beq_iff (first : value? x = some p) (second : value? y = some q) : (x == y) = true ↔ p = q := by
  change (x.toModel.unpack.compare y.toModel.unpack == some .eq) = true ↔ p = q
  rw [compare_value first second, beq_iff_eq, Option.some_inj, compare_eq_iff_eq]

theorem unpack_abs (x : Float) : x.abs.toModel.unpack = x.toModel.unpack.abs := by
  refine unpack_pack ?_
  have canonical := unpack_canonical x.toModel.toBits.toBitVec
  change Canonical x.toModel.unpack at canonical
  cases number : x.toModel.unpack <;> rw [number] at canonical <;> exact canonical

theorem unpack_neg (x : Float) : (-x).toModel.unpack = x.toModel.unpack.neg := by
  refine unpack_pack ?_
  have canonical := unpack_canonical x.toModel.toBits.toBitVec
  change Canonical x.toModel.unpack at canonical
  cases number : x.toModel.unpack <;> rw [number] at canonical <;> exact canonical

section Arithmetic
variable (x y : Float)

theorem unpack_add : (x + y).toModel.unpack =
    unpack .binary64 (pack .binary64 (UnpackedFloat.add .binary64 x.toModel.unpack y.toModel.unpack)) :=
  rfl

theorem unpack_sub : (x - y).toModel.unpack =
    unpack .binary64 (pack .binary64 (UnpackedFloat.sub .binary64 x.toModel.unpack y.toModel.unpack)) :=
  rfl

theorem unpack_mul : (x * y).toModel.unpack =
    unpack .binary64 (pack .binary64 (UnpackedFloat.mul .binary64 x.toModel.unpack y.toModel.unpack)) :=
  rfl

theorem unpack_div : (x / y).toModel.unpack =
    unpack .binary64 (pack .binary64 (UnpackedFloat.div .binary64 x.toModel.unpack y.toModel.unpack)) :=
  rfl

end Arithmetic

theorem value_abs (found : value? x = some p) : value? x.abs = some |p| := by
  rw [value?] at found ⊢
  rw [unpack_abs]
  cases number : x.toModel.unpack with
  | notANumber | infinity => rw [number] at found; cases found
  | zero => rw [number] at found; cases found; simp [UnpackedFloat.abs, unpacked?]
  | finite sign mantissa exponent positive =>
    have size := magnitude_pos exponent positive
    rw [number] at found
    cases found
    cases sign with
    | positive => simp [UnpackedFloat.abs, unpacked?, Sign.apply, abs_of_pos size]
    | negative => simp [UnpackedFloat.abs, unpacked?, Sign.apply, abs_of_pos size]

theorem apply_eq (sign : Sign) (size : Int) : sign.apply size = sign.apply 1 * size := by
  cases sign <;> simp [Sign.apply]

theorem apply_neg (sign : Sign) (size : Int) : (-sign).apply size = -sign.apply size := by
  cases sign <;> simp [Sign.apply]

theorem value_cases (found : value? x = some p) :
    (∃ sign, x.toModel.unpack = .zero sign ∧ p = 0) ∨
      ∃ sign mantissa exponent positive, x.toModel.unpack = .finite sign mantissa exponent positive ∧
        Canonical (.finite sign mantissa exponent positive) ∧ p = sign.apply 1 * (mantissa * 2 ^ exponent) := by
  have canonical : Canonical x.toModel.unpack := unpack_canonical _
  unfold value? at found
  cases number : x.toModel.unpack with
  | notANumber | infinity => rw [number] at found; cases found
  | zero sign => rw [number] at found; cases found; exact Or.inl ⟨sign, rfl, rfl⟩
  | finite sign mantissa exponent positive =>
    rw [number] at found canonical
    cases found
    refine Or.inr ⟨sign, mantissa, exponent, positive, rfl, canonical, ?_⟩
    rw [apply_eq]
    push_cast
    ring

theorem value_nonzero {sign : Sign} {mantissa : Nat} {exponent : Int} {positive : 0 < mantissa}
    (found : value? x = some p) (number : x.toModel.unpack = .finite sign mantissa exponent positive) : p ≠ 0 := by
  rw [value_finite number, Option.some_inj] at found
  have size := magnitude_pos exponent positive
  rw [← found]
  cases sign <;> simpa [Sign.apply] using size.ne'

theorem value_neg (found : value? x = some p) : value? (-x) = some (-p) := by
  rw [value?, unpack_neg]
  rcases value_cases found with ⟨sign, number, rfl⟩ | ⟨sign, mantissa, exponent, positive, number, _, rfl⟩
  · rw [number]
    simp [UnpackedFloat.neg, unpacked?]
  · rw [number, UnpackedFloat.neg, unpacked?, apply_neg, apply_eq]
    push_cast
    ring_nf

/-- A positive value is that of a mantissa with its digits in place. -/
theorem value_positive (found : value? x = some p) (positive : 0 < p) :
    ∃ (mantissa : Nat) (exponent : Int), p = mantissa * 2 ^ exponent ∧ mantissa < 2 ^ 53 ∧ -1074 ≤ exponent ∧
      exponent ≤ 971 := by
  rcases value_cases found with ⟨_, _, rfl⟩ | ⟨sign, mantissa, exponent, filled, _, ⟨short, least, most, _⟩, rfl⟩
  · exact absurd positive (lt_irrefl 0)
  · refine ⟨mantissa, exponent, ?_, short, least, most⟩
    cases sign with
    | positive => simp [Sign.apply]
    | negative => exact absurd positive (by simpa [Sign.apply] using (magnitude_pos exponent filled).le)

theorem value_lt (found : value? x = some p) : p < 2 ^ 1024 := by
  rcases le_or_gt p 0 with negative | positive
  · exact negative.trans_lt (by positivity)
  · obtain ⟨mantissa, exponent, rfl, short, _, most⟩ := value_positive found positive
    have bound : (mantissa : ℚ) < 2 ^ 53 := by exact_mod_cast short
    calc (mantissa : ℚ) * 2 ^ exponent < 2 ^ 53 * 2 ^ exponent := by gcongr
      _ ≤ 2 ^ 53 * 2 ^ (971 : Int) := by
        gcongr
        exact one_le_two
      _ = 2 ^ 1024 := by rw [zpow_ofNat, ← pow_add]

end ClipRank.Proofs.DoubleValue
