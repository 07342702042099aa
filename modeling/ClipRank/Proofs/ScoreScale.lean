import ClipRank.Proofs.Magnitudes
import ClipRank.Proofs.SignedDoubles
import ClipRank.ScoredRecord

/-! Every part of a score and the score itself lie on the scale from 0 to 100, whatever
the counters and the weights, and whatever the curves give for a NaN or an infinity. The
score is never a negative zero: the reach is not, and it counts in every profile. -/

namespace ClipRank.Proofs.ScoreScale
open Float.Model (UnpackedFloat)
open Float.Model.UnpackedFloat (Sign pack unpack)
open DoubleValue WholeDoubles Rounding Magnitudes SignedDoubles
open Scalar Curve

/-- A double from 0 up to a whole number. -/
def Within (bound : Nat) (x : Float) : Prop :=
  ∃ p, value? x = some p ∧ 0 ≤ p ∧ p ≤ bound

abbrev OnScale (x : Float) : Prop := Within 100 x

variable {x y : Float} {p q : ℚ} {bound other : Nat}

theorem value_literal (count : Nat) (same : x = (UInt64.ofNat count).toFloat) (short : count < 2 ^ 53) :
    value? x = some (count : ℚ) := by
  have word : (UInt64.ofNat count).toNat = count := by
    rw [UInt64.toNat_ofNat']
    omega
  rw [same, value_toFloat (by omega), word]

private theorem near_within {number : ℚ} (near : Near x number) (short : bound < 2 ^ 53) (low : 0 ≤ number)
    (high : number ≤ bound) : Within bound x := by
  exact near.bounded value_zero (value_literal bound rfl short) low high

namespace Within

theorem mul (first : Within bound x) (second : Within other y) (short : bound * other < 2 ^ 53) :
    Within (bound * other) (x * y) := by
  obtain ⟨p, found, low, high⟩ := first
  obtain ⟨q, otherFound, otherLow, otherHigh⟩ := second
  refine near_within (near_mul found otherFound) short (mul_nonneg low otherLow) ?_
  push_cast
  exact mul_le_mul high otherHigh otherLow (Nat.cast_nonneg _)

theorem add (first : Within bound x) (second : Within other y) (short : bound + other < 2 ^ 53) :
    Within (bound + other) (x + y) := by
  obtain ⟨p, found, low, high⟩ := first
  obtain ⟨q, otherFound, otherLow, otherHigh⟩ := second
  refine near_within (near_add found otherFound) short (add_nonneg low otherLow) ?_
  push_cast
  exact add_le_add high otherHigh

theorem div (first : Within (bound * other) x) (found : value? y = some (other : ℚ)) (positive : 0 < other)
    (short : bound < 2 ^ 53) : Within bound (x / y) := by
  obtain ⟨p, same, low, high⟩ := first
  have size : (0 : ℚ) < other := by exact_mod_cast positive
  refine near_within (near_div same found size.ne') short (div_nonneg low size.le) ?_
  rw [div_le_iff₀ size]
  exact_mod_cast high

theorem mono (within : Within bound x) (more : bound ≤ other) : Within other x := by
  obtain ⟨p, found, low, high⟩ := within
  exact ⟨p, found, low, high.trans (by exact_mod_cast more)⟩

theorem not_nan (within : Within bound x) : x.isNaN = false := by
  obtain ⟨p, found, _, _⟩ := within
  change x.toModel.unpack.isNaN = false
  rcases value_cases found with ⟨_, number, _⟩ | ⟨_, _, _, _, number, _, _⟩ <;> rw [number] <;> rfl

end Within

private theorem value_half : value? 0.5 = some (1 / 2) :=
  (value_power (-1) rfl).trans (by norm_num)

private theorem within_literal {count : Nat} (found : value? x = some (count : ℚ)) (most : count ≤ bound) :
    Within bound x :=
  ⟨count, found, Nat.cast_nonneg _, by exact_mod_cast most⟩

theorem within_zero : Within bound 0.0 :=
  ⟨0, value_zero, le_rfl, Nat.cast_nonneg _⟩

section Round

private theorem value_whole_part (found : value? x = some p) (low : 0 ≤ p) (high : p ≤ bound) (short : bound < 2 ^ 52) :
    value? x.toUInt64.toFloat = some (⌊p⌋₊ : ℚ) := by
  have floor : ⌊p⌋₊ ≤ bound := Nat.floor_le_of_le high
  have word : x.toUInt64.toNat = ⌊p⌋₊ := by
    rw [toUInt64_eq found low]
    omega
  rw [value_toFloat (by omega), word]

/-- What a double has after the point is a double. -/
private theorem exists_fraction (found : value? x = some p) (low : 0 ≤ p) : ∃ y, value? y = some (p - ⌊p⌋₊) := by
  rcases low.eq_or_lt with rfl | positive
  · exact ⟨0.0, by simpa using value_zero⟩
  obtain ⟨mantissa, exponent, rfl, short, least, _⟩ := value_positive found positive
  rcases le_total 0 exponent with natural | negative
  · obtain ⟨count, rfl⟩ := Int.eq_ofNat_of_zero_le natural
    have whole : (mantissa : ℚ) * 2 ^ (count : Int) = ((mantissa * 2 ^ count : Nat) : ℚ) := by push_cast; simp
    rw [whole, Nat.floor_natCast, sub_self]
    exact ⟨0.0, value_zero⟩
  · obtain ⟨count, same⟩ := Int.eq_ofNat_of_zero_le (Int.neg_nonneg_of_nonpos negative)
    obtain rfl : exponent = -(count : Int) := by omega
    have split : (mantissa : ℚ) = 2 ^ count * (mantissa / 2 ^ count : Nat) + (mantissa % 2 ^ count : Nat) := by
      exact_mod_cast (Nat.div_add_mod mantissa (2 ^ count)).symm
    have quotient : (mantissa : ℚ) * 2 ^ (-(count : Int)) = (mantissa : ℚ) / ((2 ^ count : Nat) : ℚ) := by
      rw [zpow_neg, zpow_natCast, div_eq_mul_inv, Nat.cast_pow, Nat.cast_two]
    have rest := exists_double ((Nat.mod_le mantissa (2 ^ count)).trans_lt short) least (by omega)
    rw [quotient, Nat.floor_div_eq_div]
    convert rest using 4
    rw [zpow_neg, zpow_natCast, Nat.cast_pow, Nat.cast_two]
    field_simp
    linarith

/-- The nearest whole number, a half going up. -/
private theorem value_size (found : value? x = some p) (low : 0 ≤ p) (high : p ≤ bound) (short : bound < 2 ^ 52) :
    value? (if x - x.toUInt64.toFloat < 0.5 then x.toUInt64.toFloat else x.toUInt64.toFloat + 1.0) =
      some (⌊p + 1 / 2⌋₊ : ℚ) := by
  have whole := value_whole_part found low high short
  obtain ⟨_, fraction⟩ := exists_fraction found low
  have rest := (near_sub found whole).value fraction
  have below := Nat.floor_le low
  have above := Nat.lt_floor_add_one p
  split
  next small =>
    have less := (lt_iff rest value_half).mp small
    have same : ⌊p + 1 / 2⌋₊ = ⌊p⌋₊ := (Nat.floor_eq_iff (by linarith)).mpr ⟨by linarith, by linarith⟩
    rw [same]
    exact whole
  next large =>
    have more := not_lt.mp fun less => large ((lt_iff rest value_half).mpr less)
    have same : ⌊p + 1 / 2⌋₊ = ⌊p⌋₊ + 1 :=
      (Nat.floor_eq_iff (by linarith)).mpr ⟨by push_cast; linarith, by push_cast; linarith⟩
    have least : ⌊p⌋₊ ≤ bound := Nat.floor_le_of_le high
    have sum := near_add whole value_one
    rw [← Nat.cast_add_one] at sum
    rw [same]
    exact sum.value (value_literal _ rfl (by omega))

theorem value_round (found : value? x = some p) (low : 0 ≤ p) (high : p ≤ bound) (short : bound < 2 ^ 52) :
    value? (Binary64.round x) = some (⌊p + 1 / 2⌋₊ : ℚ) := by
  have limit : (bound : ℚ) < 2 ^ 52 := by exact_mod_cast short
  have size : value? x.abs = some p := by
    rw [value_abs found, abs_of_nonneg low]
  have small : x.abs < 4503599627370496.0 := (lt_iff size value_threshold).mpr (high.trans_lt limit)
  have value := value_size size low high short
  unfold Binary64.round
  rw [if_pos small]
  dsimp only
  split
  next negative =>
    have nothing : p = 0 := by
      by_contra nonzero
      have positive := positive_of_value found (lt_of_le_of_ne low (Ne.symm nonzero))
      rw [isNegative_positive positive] at negative
      exact absurd negative Bool.false_ne_true
    subst nothing
    have half : ⌊(0 + 1 / 2 : ℚ)⌋₊ = 0 := Nat.floor_eq_zero.mpr (by norm_num)
    rw [half, Nat.cast_zero] at value ⊢
    simpa using value_neg value
  next => exact value

/-- The nearest whole number is not beyond a whole bound. -/
theorem round_within (within : Within bound x) (short : bound < 2 ^ 52) : Within bound (Binary64.round x) := by
  obtain ⟨p, found, low, high⟩ := within
  have floor : ⌊p + 1 / 2⌋₊ ≤ bound := by
    apply Nat.lt_succ_iff.mp
    rw [Nat.floor_lt (by linarith)]
    push_cast
    linarith
  exact ⟨_, value_round found low high short, Nat.cast_nonneg _, by exact_mod_cast floor⟩

theorem round_positive (within : Within bound x) (short : bound < 2 ^ 52) (positive : Positive x) :
    Positive (Binary64.round x) := by
  obtain ⟨p, found, low, high⟩ := within
  have size : value? x.abs = some p := by
    rw [value_abs found, abs_of_nonneg low]
  have signless : ¬ Binary64.isNegative x = true := by
    rw [isNegative_positive positive]
    exact Bool.false_ne_true
  unfold Binary64.round
  split
  · dsimp only
    split
    · exact toFloat_signed _
    · exact add_positive (value_whole_part size low high short) value_one (by positivity) (Or.inl (toFloat_signed _))
  · exact positive

end Round

section Curve

theorem value_hundred : value? 100.0 = some ((100 : Nat) : ℚ) :=
  value_literal 100 (by decide) (by decide)

private theorem within_hundred : OnScale 100.0 :=
  within_literal value_hundred le_rfl

theorem value_none (number : x.isNaN = false) (nothing : value? x = none) : ∃ sign, x.toModel.unpack = .infinity sign := by
  change x.toModel.unpack.isNaN = false at number
  unfold value? at nothing
  cases unpacked : x.toModel.unpack with
  | infinity sign => exact ⟨sign, rfl⟩
  | notANumber => rw [unpacked] at number; cases number
  | zero | finite => rw [unpacked] at nothing; cases nothing

theorem clamp_scale (number : x.isNaN = false) : OnScale (clamp zero 100.0 x) := by
  unfold clamp
  split
  · exact within_zero
  next low =>
    split
    · exact within_hundred
    next high =>
      cases found : value? x with
      | some p =>
        refine ⟨p, found, ?_, ?_⟩
        · exact not_lt.mp fun below => low ((lt_iff found value_zero).mpr below)
        · exact not_lt.mp fun above => high ((lt_iff value_hundred found).mpr above)
      | none =>
        obtain ⟨sign, unpacked⟩ := value_none number found
        cases sign with
        | positive => exact absurd (by change Float.lt 100.0 x = true; rw [lt_unpacked, unpacked]; rfl) high
        | negative => exact absurd (by change Float.lt x 0.0 = true; rw [lt_unpacked, unpacked]; rfl) low

theorem clamp100_scale (x : Float) : OnScale (clamp100 x) := by
  unfold clamp100
  split
  · exact within_zero
  next number => exact clamp_scale (Bool.eq_false_iff.mpr number)

theorem clamp_positive (positive : Positive x) : Positive (clamp zero 100.0 x) := by
  unfold clamp
  split
  · exact rfl
  · split
    · exact rfl
    · exact positive

theorem clamp100_positive (signed : x.toModel.unpack ≠ .zero .negative) : Positive (clamp100 x) := by
  unfold clamp100
  split
  · exact rfl
  next number =>
    have sign : Positive x ∨ Float.lt x 0.0 = true := by
      change ¬ x.toModel.unpack.isNaN = true at number
      rw [Positive, lt_unpacked]
      cases unpacked : x.toModel.unpack with
      | notANumber => rw [unpacked] at number; exact absurd rfl number
      | infinity sign | finite sign => cases sign; exacts [Or.inr rfl, Or.inl rfl]
      | zero sign =>
        cases sign with
        | positive => exact Or.inl rfl
        | negative => exact absurd unpacked signed
    rcases sign with positive | below
    · exact clamp_positive positive
    · unfold clamp
      rw [if_pos (show Scalar.lt x zero = true from below)]
      exact rfl

theorem value_ten : value? 10.0 = some ((10 : Nat) : ℚ) :=
  value_literal 10 (by decide) (by decide)

theorem tenfold_within (scale : OnScale x) : Within (100 * 10) (x * 10.0) :=
  scale.mul (within_literal value_ten le_rfl) (by omega)

theorem round1_scale (scale : OnScale x) : OnScale (round1 x) :=
  (round_within (tenfold_within scale) (by omega)).div value_ten (by omega) (by omega)

theorem round1_positive (scale : OnScale x) (positive : Positive x) : Positive (round1 x) := by
  have tenfold := tenfold_within scale
  obtain ⟨p, found, _, _⟩ := scale
  obtain ⟨q, rounded, _, _⟩ := round_within tenfold (by omega)
  have product : Positive (x * 10.0) := mul_positive found value_ten positive rfl
  exact div_positive rounded value_ten (round_positive tenfold (by omega) product) (by norm_num)

theorem ite_scale {condition : Prop} [Decidable condition] (scale : OnScale x) :
    OnScale (if condition then zero else x) := by
  split
  · exact within_zero
  · exact scale

theorem logScaled_scale (value offset factor : Float) : OnScale (logScaled value offset factor) :=
  ite_scale (clamp100_scale _)

theorem logScaled_positive {value offset factor : Float} (found : value? offset = some p) (size : 0 < p)
    (otherFound : value? factor = some q) (least : 1 ≤ q) : Positive (logScaled value offset factor) := by
  unfold logScaled
  split
  · exact rfl
  · exact clamp100_positive (mul_signed (sub_signed found size) otherFound least)

theorem sigmoid_scale (value midpoint steepness : Float) : OnScale (sigmoid value midpoint steepness) :=
  ite_scale (clamp100_scale _)

end Curve

section Parts
variable {metrics : RawMetrics Float} {rates : Rates Float}

theorem reach_scale (metrics : RawMetrics Float) : OnScale (Score.reach metrics) :=
  ite_scale (logScaled_scale ..)

theorem reach_positive (metrics : RawMetrics Float) : Positive (Score.reach metrics) := by
  have two : value? 2.0 = some ((2 : Nat) : ℚ) := value_literal 2 (by decide) (by decide)
  have twenty : value? 20.0 = some ((20 : Nat) : ℚ) := value_literal 20 (by decide) (by decide)
  unfold Score.reach
  split
  · exact rfl
  · exact logScaled_positive two (by norm_num) twenty (by norm_num)

theorem engagement_scale (rates : Rates Float) : OnScale (Score.engagement rates) :=
  ite_scale (sigmoid_scale ..)

theorem community_scale (metrics : RawMetrics Float) (rates : Rates Float) : OnScale (Score.community metrics rates) :=
  ite_scale (ite_scale (sigmoid_scale ..))

theorem classicConsistency_scale (metrics : RawMetrics Float) (rates : Rates Float) :
    OnScale (Score.classicConsistency metrics rates) :=
  ite_scale (sigmoid_scale ..)

theorem efficiency_scale (metrics : RawMetrics Float) (rates : Rates Float) : OnScale (Score.efficiency metrics rates) :=
  ite_scale (logScaled_scale ..)

private theorem value_ninety : value? 90.0 = some ((90 : Nat) : ℚ) :=
  value_literal 90 (by decide) (by decide)

private theorem within_fifth : Within 1 0.2 := by
  have unpacked : (0.2 : Float).toModel.unpack = .finite .positive 7205759403792794 (-55) (by decide) := rfl
  refine ⟨_, value_finite unpacked, ?_, ?_⟩ <;> norm_num [Sign.apply]

section Age
variable {days : Float} {age : ℚ} (found : value? days = some age)
include found

/-- The part of a year after the ninetieth day, up to a bound. -/
private theorem later_days (old : ¬ le days 90.0 = true) {most : Float} (bounded : Within 1 most) :
    Within 1 (atMost most ((days - 90.0) / 275.0)) := by
  have span : value? 275.0 = some ((275 : Nat) : ℚ) := value_literal 275 (by decide) (by decide)
  have beyond : (90 : Nat) ≤ age := (not_le.mp fun early => old ((le_iff found value_ninety).mpr early)).le
  obtain ⟨rest, restFound, restLow, _⟩ :=
    (near_sub found value_ninety).bounded value_zero found (sub_nonneg.mpr beyond) (sub_le_self _ (Nat.cast_nonneg _))
  obtain ⟨share, shareFound, shareLow, _⟩ :=
    (near_div restFound span (by norm_num)).bounded value_zero restFound (by positivity)
      (div_le_self restLow (by norm_num))
  unfold atMost
  split
  next below =>
    obtain ⟨bound, boundFound, _, high⟩ := bounded
    exact ⟨share, shareFound, shareLow, ((lt_iff shareFound boundFound).mp below).le.trans high⟩
  · exact bounded

theorem ageConfidence_within (natural : 0 ≤ age) : Within 2 (Score.ageConfidence days) := by
  have half : Within 1 0.5 := ⟨1 / 2, value_half, by norm_num, by norm_num⟩
  have one : Within 1 1.0 := within_literal (value_literal 1 (by decide) (by decide)) le_rfl
  have thirty : value? 30.0 = some ((30 : Nat) : ℚ) := value_literal 30 (by decide) (by decide)
  unfold Score.ageConfidence
  split
  next young =>
    have low : Within (1 * 30) (atLeast zero days) := by
      unfold atLeast
      split
      · exact ⟨age, found, natural, (le_iff found thirty).mp young⟩
      · exact within_zero
    exact half.add ((low.div thirty (by omega) (by omega)).mul half (by omega)) (by omega)
  · split
    · exact one.mono (by omega)
    next old => exact one.add ((later_days found old one).mul within_fifth (by omega)) (by omega)

/-- The factor by which the age raises the engagement is finite, whatever the age. -/
theorem ageFactor_within : Within 3 (Score.ageFactor days) := by
  have one : Within 1 1.0 := within_literal (value_literal 1 (by decide) (by decide)) le_rfl
  have seven : value? 7.0 = some ((7 : Nat) : ℚ) := value_literal 7 (by decide) (by decide)
  have span : value? 83.0 = some ((83 : Nat) : ℚ) := value_literal 83 (by decide) (by decide)
  unfold Score.ageFactor
  split
  · exact one.mono (by omega)
  next week =>
    have beyond : (7 : Nat) < age := not_le.mp fun early => week ((le_iff found seven).mpr early)
    split
    next early =>
      have within : age ≤ (90 : Nat) := (le_iff found value_ninety).mp early
      have rest : Within (1 * 83) (days - 7.0) := by
        apply near_within (near_sub found seven) (by omega)
        · exact sub_nonneg.mpr beyond.le
        · push_cast at within ⊢
          linarith
      exact (one.add ((rest.div span (by omega) (by omega)).mul within_fifth (by omega)) (by omega)).mono (by omega)
    next old =>
      have third : Within 1 0.3 := by
        have unpacked : (0.3 : Float).toModel.unpack = .finite .positive 5404319552844595 (-54) (by decide) := rfl
        refine ⟨_, value_finite unpacked, ?_, ?_⟩ <;> norm_num [Sign.apply]
      have base : Within 2 1.2 := by
        have unpacked : (1.2 : Float).toModel.unpack = .finite .positive 5404319552844595 (-52) (by decide) := rfl
        refine ⟨_, value_finite unpacked, ?_, ?_⟩ <;> norm_num [Sign.apply]
      exact base.add (later_days found old third) (by omega)

end Age

theorem balancedConsistency_scale (rates : Rates Float) {age : ℚ} (found : value? metrics.ageDays = some age)
    (natural : 0 ≤ age) : OnScale (Score.balancedConsistency metrics rates) := by
  have product := (logScaled_scale rates.viewsPerDay 1.0 25.0).mul (ageConfidence_within found natural) (by omega)
  exact ite_scale (clamp_scale product.not_nan)

theorem components_scale (profile : Profile) (rates : Rates Float) {age : ℚ}
    (found : value? metrics.ageDays = some age) (natural : 0 ≤ age) {part : Component} {value : Float}
    (present : (Score.components profile metrics rates).get? part = some value) : OnScale value := by
  cases part with
  | reach => cases present; exact round1_scale (reach_scale _)
  | engagement => cases present; exact round1_scale (engagement_scale _)
  | community => cases present; exact round1_scale (community_scale ..)
  | consistency =>
    cases present
    cases profile with
    | classic => exact round1_scale (classicConsistency_scale ..)
    | balanced => exact round1_scale (balancedConsistency_scale rates found natural)
  | efficiency =>
    cases profile with
    | classic => cases present; exact round1_scale (efficiency_scale ..)
    | balanced => cases present

end Parts

section Blend

/-- A total that is not below a size, or that is too large for a double. -/
def Reaches (size : ℚ) (total : Float) : Prop :=
  total.toModel.unpack = .infinity .positive ∨ ∃ p, value? total = some p ∧ size ≤ p

private theorem Reaches.mono {size least : ℚ} {total : Float} (reaches : Reaches size total) (below : least ≤ size) :
    Reaches least total :=
  reaches.imp_right fun ⟨p, found, above⟩ => ⟨p, found, below.trans above⟩

private theorem reaches_of_le (found : value? x = some p) (below : Float.le x y = true) : Reaches p y := by
  cases other : value? y with
  | some q => exact Or.inr ⟨q, other, (le_iff found other).mp below⟩
  | none =>
    left
    rw [le_unpacked] at below
    unfold value? at other
    cases number : y.toModel.unpack with
    | zero | finite => rw [number] at other; cases other
    | notANumber =>
      rw [number] at below
      rcases value_cases found with ⟨_, first, _⟩ | ⟨_, _, _, _, first, _, _⟩ <;> rw [first] at below <;> cases below
    | infinity sign =>
      rw [number] at below
      cases sign with
      | positive => rfl
      | negative =>
        rcases value_cases found with ⟨_, first, _⟩ | ⟨_, _, _, _, first, _, _⟩ <;> rw [first] at below <;> cases below

theorem reaches_add {size : ℚ} (total : Reaches size x) (natural : 0 ≤ size) (found : value? y = some q)
    (term : 0 ≤ q) : Reaches size (x + y) ∧ Reaches q (x + y) := by
  rcases total with infinite | ⟨p, first, above⟩
  · have unpacked := unpack_add x y
    have large : (x + y).toModel.unpack = .infinity .positive := by
      rcases value_cases found with ⟨_, number, _⟩ | ⟨_, _, _, _, number, _, _⟩
      all_goals
        rw [unpacked, infinite, number]
        exact unpack_pack (show Canonical (.infinity .positive) from trivial)
    exact ⟨Or.inl large, Or.inl large⟩
  · have near := near_add first found
    have left := reaches_of_le first ((near x p first).1 (le_add_of_nonneg_right term))
    have right := reaches_of_le found ((near y q found).1 (le_add_of_nonneg_left (natural.trans above)))
    exact ⟨left.mono above, right⟩

/-- What a total reaches it still reaches when more is added, and it reaches each of
its terms. -/
theorem sum_reaches (terms : List Float) (usable : ∀ term ∈ terms, ∃ q, value? term = some q ∧ 0 ≤ q)
    {total : Float} (start : Reaches 0 total) :
    (∀ size, 0 ≤ size → Reaches size total → Reaches size (terms.foldl (· + ·) total)) ∧
      ∀ term ∈ terms, ∀ q, value? term = some q → Reaches q (terms.foldl (· + ·) total) := by
  induction terms generalizing total with
  | nil => exact ⟨fun _ _ reaches => reaches, fun _ member => absurd member List.not_mem_nil⟩
  | cons term rest ih =>
    obtain ⟨q, found, natural⟩ := usable term List.mem_cons_self
    have step {size : ℚ} (low : 0 ≤ size) (reaches : Reaches size total) := reaches_add reaches low found natural
    obtain ⟨kept, reached⟩ := ih (fun other member => usable other (List.mem_cons_of_mem _ member)) (step le_rfl start).1
    refine ⟨fun size low reaches => kept size low (step low reaches).1, fun other member p same => ?_⟩
    rcases List.mem_cons.mp member with rfl | later
    · obtain rfl := Option.some.inj (found.symm.trans same)
      exact kept q natural (step le_rfl start).2
    · exact reached other later p same

/-- A size has no share in a total that is too large for a double. -/
theorem ratio_infinite (found : value? x = some p) (infinite : y.toModel.unpack = .infinity .positive) :
    value? (x / y) = some 0 := by
  have unpacked := unpack_div x y
  rcases value_cases found with ⟨_, number, _⟩ | ⟨_, _, _, _, number, _, _⟩
  all_goals
    rw [value?, unpacked, infinite, number]
    exact congrArg unpacked? (unpack_pack (show Canonical (.zero _) from trivial))

section Ratio
variable (found : value? x = some p) (total : Reaches p y) (weighted : ¬ Float.le y 0.0 = true)
include found total weighted

/-- The share of a size in a total that reaches it. -/
private theorem ratio_within (natural : 0 ≤ p) : Within 1 (x / y) := by
  rcases total with infinite | ⟨q, other, above⟩
  · exact ⟨0, ratio_infinite found infinite, le_rfl, by norm_num⟩
  · have size : 0 < q := not_le.mp fun low => weighted ((le_iff other value_zero).mpr low)
    refine near_within (near_div found other size.ne') (by norm_num) (div_nonneg natural size.le) ?_
    rw [Nat.cast_one, div_le_one size]
    exact above

private theorem ratio_positive (signed : Positive x) : Positive (x / y) := by
  rcases total with infinite | ⟨q, other, above⟩
  · rw [Positive, unpack_div]
    apply unpack_pack_signed
    rcases positive_cases found signed with number | ⟨_, _, _, number⟩
    all_goals
      rw [infinite, number]
      rfl
  · have size : 0 < q := not_le.mp fun low => weighted ((le_iff other value_zero).mpr low)
    exact div_positive found other signed size

end Ratio

theorem sum_within (terms : List Float) (scale : ∀ term ∈ terms, OnScale term) {total : Float}
    (start : Within bound total) (short : bound + 100 * terms.length < 2 ^ 53) :
    Within (bound + 100 * terms.length) (terms.foldl (· + ·) total) ∧
      (Positive total → Positive (terms.foldl (· + ·) total)) := by
  induction terms generalizing total bound with
  | nil => exact ⟨start, id⟩
  | cons term rest ih =>
    have scaled := scale term List.mem_cons_self
    rw [List.length_cons] at short ⊢
    obtain ⟨within, positive⟩ := ih (fun other member => scale other (List.mem_cons_of_mem _ member))
      (start.add scaled (by omega)) (by omega)
    refine ⟨within.mono (by omega), fun signed => positive ?_⟩
    obtain ⟨p, found, low, _⟩ := start
    obtain ⟨q, other, otherLow, _⟩ := scaled
    exact add_positive found other (add_nonneg low otherLow) (Or.inl signed)

theorem positivePart_usable (x : Float) :
    ∃ q, value? (positivePart x) = some q ∧ 0 ≤ q ∧ Positive (positivePart x) := by
  unfold positivePart
  split
  next usable =>
    obtain ⟨finite, above⟩ := Bool.and_eq_true_iff.mp usable
    obtain ⟨q, found⟩ := Option.isSome_iff_exists.mp ((value_isSome x).trans finite)
    have size : 0 < q := (lt_iff value_zero found).mp above
    exact ⟨q, found, size.le, positive_of_value found size⟩
  · exact ⟨0, value_zero, le_rfl, rfl⟩

theorem value_start : value? (-(zero : Float)) = some 0 := by
  have found := value_neg value_zero
  rw [neg_zero] at found
  exact found

/-- The sum of a few scores. It starts at a negative zero, but does not stay there if the
first score is positive. -/
private theorem sum_scores {first : Float} {rest : List Float} (scale : ∀ score ∈ first :: rest, OnScale score)
    (signed : Positive first) (few : rest.length ≤ 4) :
    Within 500 (sum (first :: rest)) ∧ Positive (sum (first :: rest)) := by
  have scaled := scale first List.mem_cons_self
  have start : Within (0 + 100) (-zero + first) := Within.add ⟨0, value_start, le_rfl, by simp⟩ scaled (by omega)
  have positive : Positive (-zero + first) := by
    obtain ⟨p, found, low, _⟩ := scaled
    exact add_positive value_start found (by simpa using low) (Or.inr signed)
  obtain ⟨within, kept⟩ := sum_within rest (fun score later => scale score (List.mem_cons_of_mem _ later)) start (by omega)
  exact ⟨within.mono (by omega), kept positive⟩

theorem total_reaches {weights : Weights Float} {parts : List Component} {part : Component} (member : part ∈ parts)
    (found : value? (positivePart (weights.get part)) = some p) : Reaches p (weights.total parts) := by
  refine (sum_reaches _ ?_ (Or.inr ⟨0, value_start, le_rfl⟩)).2 _ (List.mem_map_of_mem member) p found
  intro term present
  obtain ⟨other, _, rfl⟩ := List.mem_map.mp present
  obtain ⟨q, usable, natural, _⟩ := positivePart_usable (weights.get other)
  exact ⟨q, usable, natural⟩

private theorem weight_ratio {weights : Weights Float} {parts : List Component} {part : Component} (member : part ∈ parts)
    (weighted : ¬ le (weights.total parts) zero = true) :
    Within 1 (weights.sanitized.get part / weights.total parts) ∧
      Positive (weights.sanitized.get part / weights.total parts) := by
  obtain ⟨p, found, natural, positive⟩ := positivePart_usable (weights.get part)
  rw [Weights.get_sanitized]
  have reached := total_reaches member found
  exact ⟨ratio_within found reached weighted natural, ratio_positive found reached weighted positive⟩

/-- A blend of parts is on the scale, and it is positive because the reach is. -/
theorem composite_scale (profile : Profile) {values : Components Float} (weights : Weights Float)
    (scale : ∀ part value, values.get? part = some value → OnScale value) (signed : Positive values.reach) :
    OnScale (Score.composite profile values weights) ∧ Positive (Score.composite profile values weights) := by
  unfold Score.composite
  dsimp only
  split
  · exact ⟨within_zero, rfl⟩
  next weighted =>
    let share (part : Component) : Float :=
      (values.get? part).getD zero * (weights.sanitized.get part / weights.total profile.components)
    obtain ⟨rest, parts, few⟩ : ∃ rest, profile.components = .reach :: rest ∧ rest.length ≤ 4 := by
      cases profile <;> exact ⟨_, rfl, by decide⟩
    have scaled : ∀ score ∈ (Component.reach :: rest).map share, OnScale score := by
      intro score present
      obtain ⟨part, member, rfl⟩ := List.mem_map.mp present
      have value : OnScale ((values.get? part).getD zero) := by
        cases given : values.get? part with
        | none => exact within_zero
        | some value => exact scale part value given
      exact value.mul (weight_ratio (parts ▸ member) weighted).1 (by omega)
    have positive : Positive (share .reach) := by
      obtain ⟨⟨p, ratio, _⟩, ratioPositive⟩ := weight_ratio (parts ▸ List.mem_cons_self : .reach ∈ profile.components) weighted
      obtain ⟨q, value, _⟩ := scale .reach values.reach rfl
      exact mul_positive value ratio signed ratioPositive
    have blended : Within 500 (sum (profile.components.map share)) ∧ Positive (sum (profile.components.map share)) := by
      rw [parts]
      exact sum_scores scaled positive (by rwa [List.length_map])
    have clamped := clamp_scale blended.1.not_nan
    exact ⟨round1_scale clamped, round1_positive clamped (clamp_positive blended.2)⟩

end Blend

/-- The composite score of a record is on the scale and not a negative zero. -/
theorem ofMetrics_scale (id title : String) (metrics : RawMetrics Float) (profile : Profile) (weights : Weights Float) :
    OnScale (ScoredRecord.ofMetrics id title metrics profile weights).compositeScore ∧
      Positive (ScoredRecord.ofMetrics id title metrics profile weights).compositeScore := by
  obtain ⟨age, usable, natural, _⟩ := positivePart_usable metrics.ageDays
  have found : value? metrics.sanitized.ageDays = some age := usable
  refine composite_scale profile weights ?_ (round1_positive (reach_scale _) (reach_positive _))
  intro part value present
  exact components_scale profile _ found natural present

end ClipRank.Proofs.ScoreScale
