import Mathlib.Data.Finset.Max
import ClipRank.Proofs.WeightedMean
import ClipRank.Proofs.ValueOrder

/-! The composite lies between the components that count in it. Components and composite
have one decimal, and the blend is much closer to the exact mean than that, so rounding
does not take it past a component. What can go wrong is the sum of the weights: they are
taken in any size, and the sum of a few large ones is too large for a double. -/

namespace ClipRank.Proofs.CompositeRange
open DoubleValue WholeDoubles Rounding SignedDoubles ScoreScale ValueOrder WeightedMean
open Scalar Curve

variable {x y : Float} {p : ℚ}

section Decimal

/-- A score from 0 to 100 with one decimal. -/
def Decimal (x : Float) : Prop :=
  ∃ count ≤ 1000, (x == (UInt64.ofNat count).toFloat / 10.0) = true

private theorem eq_of_value (first : value? x = some p) (second : value? y = some p) (size : 0 < p) : x = y :=
  eq_of_signed first second (positive_of_value first size) (positive_of_value second size)

private theorem value_tenth {count : Nat} (found : value? x = some (count : ℚ)) (short : count ≤ 1000) :
    ∃ tenth, value? (x / 10.0) = some tenth ∧ |tenth - count / 10| ≤ slack := by
  have most : (count : ℚ) ≤ 1000 := by exact_mod_cast short
  apply near_slack (near_div found value_ten (by norm_num)) (by positivity)
  push_cast
  linarith

private theorem zero_tenth (found : value? x = some ((0 : Nat) : ℚ)) : value? (x / 10.0) = some 0 := by
  have near := near_div found value_ten (by norm_num)
  rw [Nat.cast_zero, zero_div] at near
  exact near.value value_zero

/-- Tenths are rounded so little that they stay in order. -/
private theorem tenth_le {count more : Nat} (found : value? x = some (count : ℚ)) (other : value? y = some (more : ℚ))
    (short : more ≤ 1000) (below : count ≤ more) : Float.le (x / 10.0) (y / 10.0) = true := by
  obtain ⟨tenth, tenthFound, error⟩ := value_tenth found (below.trans short)
  obtain ⟨next, nextFound, nextError⟩ := value_tenth other short
  apply (le_iff tenthFound nextFound).mpr
  rcases below.eq_or_lt with rfl | less
  · -- Equal counts are not told apart by their error, but they are one double or both zeros.
    rcases Nat.eq_zero_or_pos count with rfl | positive
    · rw [Option.some.inj (tenthFound.symm.trans (zero_tenth found)),
        Option.some.inj (nextFound.symm.trans (zero_tenth other))]
    · obtain rfl := eq_of_value found other (by exact_mod_cast positive)
      rw [Option.some.inj (tenthFound.symm.trans nextFound)]
  · have step : (count : ℚ) + 1 ≤ more := by exact_mod_cast less
    have small : slack = 1 / 10 ^ 12 := rfl
    rw [abs_le] at error nextError
    linarith

/-- Rounding to one decimal goes past no whole number of tenths that is further away than
a half. -/
private theorem round1_count (scale : OnScale x) (found : value? x = some p) :
    ∃ count : Nat, value? (Binary64.round (x * 10.0)) = some (count : ℚ) ∧ ∀ whole : Nat,
      (whole ≤ 10 * p + 1 / 4 → whole ≤ count) ∧ (10 * p ≤ whole + 1 / 4 → count ≤ whole) := by
  have small : slack = 1 / 10 ^ 12 := rfl
  obtain ⟨q, product, natural, most⟩ := tenfold_within scale
  obtain ⟨_, given, low, high⟩ := scale
  obtain rfl := Option.some.inj (found.symm.trans given)
  push_cast at most high
  obtain ⟨_, same, error⟩ := near_slack (near_mul found value_ten) (by positivity) (by push_cast; linarith)
  obtain rfl := Option.some.inj (product.symm.trans same)
  refine ⟨_, value_round product natural most (by norm_num), fun whole => ⟨fun below => ?_, fun above => ?_⟩⟩
  all_goals
    rw [abs_le] at error
    push_cast at error
  · apply Nat.le_floor
    linarith
  · apply Nat.lt_succ_iff.mp
    rw [Nat.floor_lt (by linarith)]
    push_cast
    linarith

private theorem beq_value (found : value? y = some p) (same : (x == y) = true) : value? x = some p := by
  cases given : value? x with
  | some q => rw [(beq_iff given found).mp same]
  | none =>
    change (x.toModel.unpack.compare y.toModel.unpack == some .eq) = true at same
    unfold value? at given
    rcases value_cases found with ⟨_, other, _⟩ | ⟨_, _, _, _, other, _, _⟩
    all_goals
      rw [other] at same
      cases number : x.toModel.unpack with
      | zero | finite => rw [number] at given; cases given
      | notANumber => rw [number] at same; cases same
      | infinity sign => rw [number] at same; cases sign <;> cases same

private theorem decimal_found (decimal : Decimal x) :
    ∃ count ≤ 1000, ∃ tenth, value? x = some tenth ∧ value? ((UInt64.ofNat count).toFloat / 10.0) = some tenth ∧
      |tenth - count / 10| ≤ slack := by
  obtain ⟨count, short, same⟩ := decimal
  obtain ⟨tenth, found, error⟩ := value_tenth (value_literal count rfl (by omega)) short
  exact ⟨count, short, tenth, beq_value found same, found, error⟩

theorem decimal_scale (decimal : Decimal x) : OnScale x := by
  obtain ⟨count, short, tenth, found, other, _⟩ := decimal_found decimal
  have whole : Within (100 * 10) (UInt64.ofNat count).toFloat :=
    ⟨count, value_literal count rfl (by omega), Nat.cast_nonneg _, by exact_mod_cast short⟩
  obtain ⟨_, same, low, high⟩ := whole.div value_ten (by norm_num) (by norm_num)
  obtain rfl := Option.some.inj (other.symm.trans same)
  exact ⟨tenth, found, low, high⟩

end Decimal

section Composite
variable {profile : Profile} {values : Components Float} {weights : Weights Float} {part : Component}

def Counted (profile : Profile) (weights : Weights Float) (part : Component) : Prop :=
  part ∈ profile.components ∧ (weights.get part).isFinite = true ∧ 0.0 < weights.get part

/-- The composite is neither below all components that count nor above them all. -/
def Between (profile : Profile) (values : Components Float) (weights : Weights Float) : Prop :=
  (∃ part, Counted profile weights part ∧ valueOf values part ≤ Score.composite profile values weights) ∧
    ∃ part, Counted profile weights part ∧ Score.composite profile values weights ≤ valueOf values part

private theorem counted_iff : Counted profile weights part ↔ part ∈ profile.components ∧ 0 < weightOf weights part := by
  have usable : (weights.get part).isFinite = true ∧ 0.0 < weights.get part ↔ 0 < weightOf weights part := by
    constructor
    · intro usable
      obtain ⟨q, found⟩ := Option.isSome_iff_exists.mp ((value_isSome _).trans usable.1)
      have kept : positivePart (weights.get part) = weights.get part := if_pos (Bool.and_eq_true_iff.mpr usable)
      rw [weightOf, kept, amount_eq found]
      exact (lt_iff value_zero found).mp usable.2
    · intro positive
      by_contra unusable
      have nothing : positivePart (weights.get part) = 0.0 :=
        if_neg fun usable => unusable (Bool.and_eq_true_iff.mp usable)
      rw [weightOf, nothing, amount_eq value_zero] at positive
      exact absurd positive (lt_irrefl 0)
  exact and_congr_right' usable

private theorem exists_least (counted : ∃ part, Counted profile weights part) (f : Component → ℚ) :
    ∃ part, Counted profile weights part ∧ ∀ other, Counted profile weights other → f part ≤ f other := by
  classical
  obtain ⟨part, given⟩ := counted
  have nonempty : (profile.components.toFinset.filter (Counted profile weights)).Nonempty :=
    ⟨part, Finset.mem_filter.mpr ⟨List.mem_toFinset.mpr given.1, given⟩⟩
  obtain ⟨least, member, below⟩ := Finset.exists_min_image _ f nonempty
  refine ⟨least, (Finset.mem_filter.mp member).2, fun other given => below other ?_⟩
  exact Finset.mem_filter.mpr ⟨List.mem_toFinset.mpr given.1, given⟩

private theorem composite_eq (weighted : ¬ le (weights.total profile.components) zero = true) :
    Score.composite profile values weights = round1 (clamp zero 100.0 (blend profile values weights)) :=
  if_neg weighted

private theorem clamp_value (found : value? x = some p) (low : 0 ≤ p) : value? (clamp zero 100.0 x) = some (min p 100) := by
  unfold clamp
  split
  next below => exact absurd ((lt_iff found value_zero).mp below) (not_lt.mpr low)
  · split
    next above =>
      have high := (lt_iff value_hundred found).mp above
      rw [min_eq_right (by exact_mod_cast high.le)]
      exact value_hundred
    next above =>
      have high := not_lt.mp fun high => above ((lt_iff value_hundred found).mpr high)
      rw [min_eq_left (by exact_mod_cast high)]
      exact found

section Finite
variable {total : ℚ} (found : value? (weights.total profile.components) = some total) (positive : 0 < total)
include found positive

theorem composite_order (decimal : ∀ part, Decimal (valueOf values part)) (part : Component) :
    (amount (valueOf values part) ≤ mean profile values weights →
        valueOf values part ≤ Score.composite profile values weights) ∧
      (mean profile values weights ≤ amount (valueOf values part) →
        Score.composite profile values weights ≤ valueOf values part) := by
  have scale part := decimal_scale (decimal part)
  have weighted : ¬ le (weights.total profile.components) zero = true :=
    fun low => absurd positive (not_lt.mpr ((le_iff found value_zero).mp low))
  obtain ⟨raw, rawFound, natural, error⟩ := blend_error found positive scale
  have top := (mean_scale (weights_positive found positive) scale).2
  have clamped := clamp_value rawFound natural
  have clampedScale : OnScale (clamp zero 100.0 (blend profile values weights)) :=
    ⟨_, clamped, by positivity, by simp⟩
  obtain ⟨count, rounded, past⟩ := round1_count clampedScale clamped
  obtain ⟨own, short, tenth, valueFound, tenthFound, tenthError⟩ := decimal_found (decimal part)
  have literal : value? (UInt64.ofNat own).toFloat = some (own : ℚ) := value_literal own rfl (by omega)
  have small : slack = 1 / 10 ^ 12 := rfl
  rw [abs_le] at error tenthError
  have low : mean profile values weights - 1 / 1000 ≤ min raw 100 := le_min (by linarith) (by linarith)
  have high : min raw 100 ≤ mean profile values weights + 1 / 1000 := (min_le_left _ _).trans (by linarith)
  have most : min raw 100 ≤ 100 := min_le_right _ _
  generalize min raw 100 = score at past low high most
  have countShort : count ≤ 1000 := (past 1000).2 (by push_cast; linarith)
  obtain ⟨result, resultFound, _⟩ := value_tenth rounded countShort
  rw [composite_eq weighted, amount_eq valueFound]
  constructor
  · intro below
    have kept := tenth_le literal rounded countShort ((past own).1 (by linarith))
    exact (le_iff valueFound resultFound).mpr ((le_iff tenthFound resultFound).mp kept)
  · intro above
    have kept := tenth_le rounded literal short ((past own).2 (by linarith))
    exact (le_iff resultFound valueFound).mpr ((le_iff resultFound tenthFound).mp kept)

theorem composite_between (decimal : ∀ part, Decimal (valueOf values part))
    (counted : ∃ part, Counted profile weights part) : Between profile values weights := by
  have weightsPositive := weights_positive found positive
  obtain ⟨least, leastCounted, below⟩ := exists_least counted fun part => amount (valueOf values part)
  obtain ⟨most, mostCounted, above⟩ := exists_least counted fun part => -amount (valueOf values part)
  have bounds : amount (valueOf values least) ≤ mean profile values weights ∧
      mean profile values weights ≤ amount (valueOf values most) := by
    apply mean_between weightsPositive
    intro part member weighted
    have given : Counted profile weights part := counted_iff.mpr ⟨member, weighted⟩
    exact ⟨below part given, neg_le_neg_iff.mp (above part given)⟩
  exact ⟨⟨least, leastCounted, (composite_order found positive decimal least).1 bounds.1⟩,
    most, mostCounted, (composite_order found positive decimal most).2 bounds.2⟩

end Finite

theorem composite_infinite (infinite : (weights.total profile.components).toModel.unpack = .infinity .positive)
    (scale : ∀ part, OnScale (valueOf values part)) :
    value? (Score.composite profile values weights) = some 0 := by
  have weighted : ¬ le (weights.total profile.components) zero = true := by
    intro low
    change Float.le _ _ = true at low
    rw [le_unpacked, infinite] at low
    cases low
  have clamped := clamp_value (blend_infinite infinite scale) le_rfl
  obtain ⟨count, rounded, past⟩ := round1_count ⟨_, clamped, by simp, by simp⟩ clamped
  obtain rfl : count = 0 := Nat.le_zero.mp ((past 0).2 (by norm_num))
  rw [composite_eq weighted]
  exact zero_tenth rounded

/-- The composite lies between the components that count if the sum of their weights is
finite. If it is too large for a double the composite is 0, which is between them just
when one of them is 0 as well. -/
theorem composite_between_iff (profile : Profile) (values : Components Float) (weights : Weights Float)
    (decimals : ∀ part value, values.get? part = some value → Decimal value)
    (counted : ∃ part, Counted profile weights part) :
    Between profile values weights ↔ (weights.total profile.components).isFinite = true ∨
      ∃ part, Counted profile weights part ∧ (valueOf values part == 0.0) = true := by
  have decimal (part : Component) : Decimal (valueOf values part) := by
    unfold valueOf
    cases given : values.get? part with
    | none => exact ⟨0, by omega, by decide⟩
    | some value => exact decimals part value given
  obtain ⟨part, member, weighted⟩ : ∃ part, part ∈ profile.components ∧ 0 < weightOf weights part := by
    obtain ⟨part, given⟩ := counted
    exact ⟨part, counted_iff.mp given⟩
  rcases total_reaches member (weight_found weights part).1 with infinite | ⟨total, found, above⟩
  · have scale part := decimal_scale (decimal part)
    have score := composite_infinite infinite scale
    have unbounded : ¬ (weights.total profile.components).isFinite = true := by
      rw [← value_isSome, value?, infinite]
      exact Bool.false_ne_true
    rw [or_iff_right unbounded]
    constructor
    · rintro ⟨⟨part, given, below⟩, _⟩
      obtain ⟨value, found, natural, _⟩ := scale part
      have nothing := (le_iff found score).mp below
      exact ⟨part, given, (beq_iff found value_zero).mpr (le_antisymm nothing natural)⟩
    · rintro ⟨part, given, same⟩
      have nothing := beq_value value_zero same
      exact ⟨⟨part, given, (le_iff nothing score).mpr le_rfl⟩, part, given, (le_iff score nothing).mpr le_rfl⟩
  · have finite : (weights.total profile.components).isFinite = true := by
      rw [← value_isSome, found]
      rfl
    exact iff_of_true (composite_between found (weighted.trans_le above) decimal counted) (Or.inl finite)

def largest : Float := Float.ofBits 0x7fefffffffffffff

/-- Weights may be as far apart as doubles go. -/
theorem uneven_weights_between :
    Between .classic ⟨90.0, 10.5, 0.1, 33.3, none⟩ ⟨largest, least, 0.0, -1.0, Binary64.nan⟩ := by
  refine (composite_between_iff .classic _ _ ?_ ?_).mpr (Or.inl ?_)
  · intro part value present
    cases part with
    | reach => cases present; exact ⟨900, by omega, by decide⟩
    | engagement => cases present; exact ⟨105, by omega, by decide⟩
    | consistency => cases present; exact ⟨1, by omega, by decide⟩
    | community => cases present; exact ⟨333, by omega, by decide⟩
    | efficiency => cases present
  · exact ⟨.engagement, by decide, by decide, by decide⟩
  · decide +kernel

/-- Two weights that are finite make a sum that is not. -/
theorem heavy_weights_lost :
    let values : Components Float := ⟨50.0, 50.0, 50.0, 50.0, some 50.0⟩
    let weights : Weights Float := ⟨largest, largest, 0.0, 0.0, 0.0⟩
    (∀ part value, values.get? part = some value → Decimal value) ∧ (∀ part, (weights.get part).isFinite = true) ∧
    (∃ part, Counted .classic weights part) ∧ Score.composite .classic values weights = 0.0 ∧
    ¬ Between .classic values weights := by
  intro values weights
  have nothing : Score.composite .classic values weights = 0.0 := by decide +kernel
  refine ⟨?_, ?_, ⟨.reach, by decide, by decide, by decide⟩, nothing, ?_⟩
  · intro part value present
    cases part <;> cases present <;> exact ⟨500, by omega, by decide⟩
  · intro part
    cases part <;> decide
  · rintro ⟨⟨part, _, below⟩, _⟩
    rw [nothing] at below
    cases part <;> exact absurd below (by decide)

end Composite

end ClipRank.Proofs.CompositeRange
