import Mathlib.Algebra.BigOperators.Ring.List
import ClipRank.Proofs.ExactNumbers
import ClipRank.Proofs.RoundingError
import ClipRank.Proofs.ScoreScale

/-! The components are blended to a weighted mean, in doubles. As long as the sum of the
weights is finite the shares are as good as exact, and so is their sum, however large or
small the weights are. If the sum of the weights is too large for a double every share
is 0. -/

namespace ClipRank.Proofs.WeightedMean
open DoubleValue WholeDoubles Rounding SignedDoubles RoundingError ScoreScale
open Scalar

variable {x : Float} {p number : ℚ}

/-- What one operation on scores may be off by. -/
def slack : ℚ := 1 / 10 ^ 12

theorem near_slack (near : Near x number) (low : 0 ≤ number) (high : number ≤ 1000) :
    ∃ value, value? x = some value ∧ |value - number| ≤ slack := by
  obtain ⟨value, found, error⟩ :=
    near_step near (by norm_num : -1074 ≤ (-40 : Int)) (by norm_num) low (high.trans_lt (by norm_num))
  refine ⟨value, found, error.trans ?_⟩
  norm_num [slack]

/-- The exact value, with 0 for what is not finite. -/
def amount (x : Float) : ℚ :=
  (value? x).getD 0

theorem amount_eq (found : value? x = some p) : amount x = p := by
  rw [amount, found]
  rfl

section Sum
variable {terms : List Float} {start : Float} {total : ℚ}

private theorem sum_infinite (usable : ∀ term ∈ terms, ∃ q, value? term = some q ∧ 0 ≤ q)
    (infinite : start.toModel.unpack = .infinity .positive) : value? (terms.foldl (· + ·) start) = none := by
  cases last : value? (terms.foldl (· + ·) start) with
  | none => rfl
  | some total =>
    have beyond := (sum_reaches terms usable (Or.inl infinite)).1 (|total| + 1) (by positivity) (Or.inl infinite)
    rcases beyond with unpacked | ⟨size, same, above⟩
    · rw [value?, unpacked] at last
      cases last
    · have high : size ≤ |total| := by
        rw [← Option.some.inj (last.symm.trans same)]
        exact le_abs_self total
      linarith

/-- A finite sum is off by a part of itself for each of its terms. -/
theorem sum_error (usable : ∀ term ∈ terms, ∃ q, value? term = some q ∧ 0 ≤ q) (found : value? start = some p)
    (natural : 0 ≤ p) (last : value? (terms.foldl (· + ·) start) = some total) :
    p ≤ total ∧ |total - (p + (terms.map amount).sum)| ≤ terms.length * (total / 2 ^ 51) := by
  induction terms generalizing start p with
  | nil =>
    obtain rfl := Option.some.inj (found.symm.trans last)
    simp
  | cons term rest ih =>
    obtain ⟨q, termFound, termNatural⟩ := usable term List.mem_cons_self
    have later : ∀ other ∈ rest, ∃ q, value? other = some q ∧ 0 ≤ q :=
      fun other member => usable other (List.mem_cons_of_mem _ member)
    cases next : value? (start + term) with
    | none =>
      rcases (reaches_add (Or.inr ⟨p, found, le_rfl⟩) natural termFound termNatural).1 with infinite | ⟨_, same, _⟩
      · rw [List.foldl_cons, sum_infinite later infinite] at last
        cases last
      · rw [next] at same
        cases same
    | some sum =>
      have near := near_add found termFound
      have above : p ≤ sum := (le_iff found next).mp ((near _ _ found).1 (le_add_of_nonneg_right termNatural))
      have error := add_error found termFound natural termNatural next
      obtain ⟨high, rest⟩ := ih later next (natural.trans above) last
      refine ⟨above.trans high, ?_⟩
      rw [abs_le] at error rest ⊢
      simp only [List.map_cons, List.sum_cons, List.length_cons, Nat.cast_add, Nat.cast_one, amount_eq termFound]
      constructor <;> linarith

end Sum

section Blend
variable {values : Components Float} {weights : Weights Float} {profile : Profile} {part : Component}

/-- The value of a component as it is blended, 0 if it is absent. -/
def valueOf (values : Components Float) (part : Component) : Float :=
  (values.get? part).getD 0.0

def weightOf (weights : Weights Float) (part : Component) : ℚ :=
  amount (positivePart (weights.get part))

/-- The exact mean of the components of a profile. -/
def mean (profile : Profile) (values : Components Float) (weights : Weights Float) : ℚ :=
  (profile.components.map fun part => amount (valueOf values part) * weightOf weights part).sum /
    (profile.components.map (weightOf weights)).sum

def share (profile : Profile) (values : Components Float) (weights : Weights Float) (part : Component) : Float :=
  valueOf values part * (weights.sanitized.get part / weights.total profile.components)

def blend (profile : Profile) (values : Components Float) (weights : Weights Float) : Float :=
  sum (profile.components.map (share profile values weights))

theorem weight_found (weights : Weights Float) (part : Component) :
    value? (positivePart (weights.get part)) = some (weightOf weights part) ∧ 0 ≤ weightOf weights part := by
  obtain ⟨q, found, natural, _⟩ := positivePart_usable (weights.get part)
  rw [weightOf, amount_eq found]
  exact ⟨found, natural⟩

/-- A sum over the components of a profile is as good as exact. -/
theorem parts_error {f : Component → Float} {total : ℚ}
    (usable : ∀ part ∈ profile.components, ∃ q, value? (f part) = some q ∧ 0 ≤ q)
    (found : value? (sum (profile.components.map f)) = some total) :
    |total - (profile.components.map fun part => amount (f part)).sum| ≤ total / 10 ^ 14 := by
  have terms : ∀ term ∈ profile.components.map f, ∃ q, value? term = some q ∧ 0 ≤ q := by
    intro term present
    obtain ⟨part, member, rfl⟩ := List.mem_map.mp present
    exact usable part member
  obtain ⟨natural, error⟩ := sum_error terms value_start le_rfl found
  have few : (profile.components.length : ℚ) ≤ 5 := by exact_mod_cast profile.components_few
  rw [zero_add, List.map_map, List.length_map] at error
  calc |total - (profile.components.map fun part => amount (f part)).sum|
      ≤ profile.components.length * (total / 2 ^ 51) := error
    _ ≤ 5 * (total / 2 ^ 51) := by gcongr
    _ ≤ total / 10 ^ 14 := by linarith

theorem total_error {total : ℚ} (found : value? (weights.total profile.components) = some total) :
    |total - (profile.components.map (weightOf weights)).sum| ≤ total / 10 ^ 14 :=
  parts_error (fun part _ => ⟨_, weight_found weights part⟩) found

section Share
variable {total : ℚ} (found : value? (weights.total profile.components) = some total) (positive : 0 < total)
  (member : part ∈ profile.components)
include found positive member

private theorem ratio_error :
    ∃ ratio, value? (positivePart (weights.get part) / weights.total profile.components) = some ratio ∧
      0 ≤ ratio ∧ ratio ≤ 1 ∧ |ratio - weightOf weights part / total| ≤ slack := by
  obtain ⟨weightFound, weightNatural⟩ := weight_found weights part
  have reached : weightOf weights part ≤ total := by
    rcases total_reaches member weightFound with infinite | ⟨_, same, above⟩
    · rw [value?, infinite] at found
      cases found
    · rwa [Option.some.inj (found.symm.trans same)]
  have near := near_div weightFound found positive.ne'
  have low : 0 ≤ weightOf weights part / total := by positivity
  have high : weightOf weights part / total ≤ 1 := (div_le_one positive).mpr reached
  obtain ⟨ratio, ratioFound, ratioLow, ratioHigh⟩ := near.bounded value_zero value_one low high
  obtain ⟨_, same, error⟩ := near_slack near low (high.trans (by norm_num))
  obtain rfl := Option.some.inj (ratioFound.symm.trans same)
  exact ⟨ratio, ratioFound, ratioLow, ratioHigh, error⟩

theorem share_error (scale : OnScale (valueOf values part)) :
    OnScale (share profile values weights part) ∧
      |amount (share profile values weights part) - amount (valueOf values part) * (weightOf weights part / total)| ≤
        101 * slack := by
  obtain ⟨ratio, ratioFound, ratioLow, ratioHigh, ratioError⟩ := ratio_error found positive member
  have within : Within 1 (positivePart (weights.get part) / weights.total profile.components) :=
    ⟨ratio, ratioFound, ratioLow, by exact_mod_cast ratioHigh⟩
  have product := scale.mul within (by norm_num)
  obtain ⟨value, valueFound, valueLow, valueHigh⟩ := scale
  push_cast at valueHigh
  have high : value * ratio ≤ 1000 := by
    calc value * ratio ≤ 100 * 1 := mul_le_mul valueHigh ratioHigh ratioLow (by norm_num)
      _ ≤ 1000 := by norm_num
  obtain ⟨result, resultFound, resultError⟩ :=
    near_slack (near_mul valueFound ratioFound) (mul_nonneg valueLow ratioLow) high
  rw [share, Weights.get_sanitized, amount_eq resultFound, amount_eq valueFound]
  refine ⟨product, ?_⟩
  calc |result - value * (weightOf weights part / total)|
      = |(result - value * ratio) + value * (ratio - weightOf weights part / total)| := by ring_nf
    _ ≤ |result - value * ratio| + |value * (ratio - weightOf weights part / total)| := abs_add_le _ _
    _ ≤ slack + 100 * slack := by
      rw [abs_mul, abs_of_nonneg valueLow]
      gcongr
    _ = 101 * slack := by ring

end Share

theorem blend_within (scale : ∀ part ∈ profile.components, OnScale (share profile values weights part)) :
    Within 500 (blend profile values weights) := by
  have few := profile.components_few
  have start : Within 0 (-zero) := ⟨0, value_start, le_rfl, le_rfl⟩
  have scores : ∀ score ∈ profile.components.map (share profile values weights), OnScale score := by
    intro score present
    obtain ⟨part, member, rfl⟩ := List.mem_map.mp present
    exact scale part member
  have within := (sum_within _ scores start (by rw [List.length_map]; omega)).1
  rw [List.length_map] at within
  exact within.mono (by omega)

section Mean
variable {low high : ℚ}

variable (positive : 0 < (profile.components.map (weightOf weights)).sum)
include positive

/-- The mean keeps the bounds that every component with a weight keeps. -/
theorem mean_between (bounds : ∀ part ∈ profile.components, 0 < weightOf weights part →
      low ≤ amount (valueOf values part) ∧ amount (valueOf values part) ≤ high) :
    low ≤ mean profile values weights ∧ mean profile values weights ≤ high := by
  have terms : ∀ part ∈ profile.components,
      low * weightOf weights part ≤ amount (valueOf values part) * weightOf weights part ∧
        amount (valueOf values part) * weightOf weights part ≤ high * weightOf weights part := by
    intro part member
    rcases (weight_found weights part).2.eq_or_lt with nothing | weighted
    · simp [← nothing]
    · obtain ⟨below, above⟩ := bounds part member weighted
      exact ⟨mul_le_mul_of_nonneg_right below weighted.le, mul_le_mul_of_nonneg_right above weighted.le⟩
  rw [mean, le_div_iff₀ positive, div_le_iff₀ positive, ← List.sum_map_mul_left, ← List.sum_map_mul_left]
  constructor
  · apply List.sum_le_sum
    intro part member
    exact (terms part member).1
  · apply List.sum_le_sum
    intro part member
    exact (terms part member).2

theorem mean_scale (scale : ∀ part, OnScale (valueOf values part)) :
    0 ≤ mean profile values weights ∧ mean profile values weights ≤ 100 := by
  apply mean_between positive
  intro part _ _
  obtain ⟨value, found, natural, most⟩ := scale part
  rw [amount_eq found]
  exact ⟨natural, by exact_mod_cast most⟩

end Mean

section Total
variable {total : ℚ} (found : value? (weights.total profile.components) = some total) (positive : 0 < total)
include found positive

theorem weights_positive : 0 < (profile.components.map (weightOf weights)).sum := by
  have gap := (abs_le.mp (total_error found)).2
  linarith

/-- Shares of the computed total add up to the mean, as good as exactly. -/
theorem shares_mean (scale : ∀ part, OnScale (valueOf values part)) :
    |(profile.components.map fun part => amount (valueOf values part) * (weightOf weights part / total)).sum -
      mean profile values weights| ≤ slack := by
  have weightsPositive := weights_positive found positive
  have gap := total_error found
  obtain ⟨low, high⟩ := mean_scale weightsPositive scale
  have scaled : (profile.components.map fun part => amount (valueOf values part) * (weightOf weights part / total)).sum =
      mean profile values weights * ((profile.components.map (weightOf weights)).sum / total) := by
    rw [mean, div_mul_div_cancel₀ weightsPositive.ne', div_eq_mul_inv, ← List.sum_map_mul_right]
    simp only [div_eq_mul_inv, mul_assoc]
  generalize (profile.components.map (weightOf weights)).sum = weighed at weightsPositive gap scaled
  have unit : |weighed / total - 1| ≤ 1 / 10 ^ 14 := by
    have part : weighed / total - 1 = -((total - weighed) / total) := by
      field_simp
      ring
    rw [part, abs_neg, abs_div, abs_of_pos positive, div_le_iff₀ positive]
    linarith
  rw [scaled]
  calc |mean profile values weights * (weighed / total) - mean profile values weights|
      = mean profile values weights * |weighed / total - 1| := by
        rw [← mul_sub_one, abs_mul, abs_of_nonneg low]
    _ ≤ 100 * (1 / 10 ^ 14) := by gcongr
    _ = slack := by norm_num [slack]

/-- The blend is as good as the mean if the sum of the weights is finite. -/
theorem blend_error (scale : ∀ part, OnScale (valueOf values part)) :
    ∃ raw, value? (blend profile values weights) = some raw ∧ 0 ≤ raw ∧ |raw - mean profile values weights| ≤ 1 / 1000 := by
  have scaled part (member : part ∈ profile.components) := share_error found positive member (scale part)
  obtain ⟨raw, rawFound, natural, high⟩ := blend_within fun part member => (scaled part member).1
  have summed := parts_error (fun part member => (scaled part member).1.imp fun _ found => ⟨found.1, found.2.1⟩) rawFound
  have shares := ExactNumbers.sums_close fun part member => (scaled part member).2
  have exactly := shares_mean found positive scale
  have few : (profile.components.length : ℚ) ≤ 5 := by exact_mod_cast profile.components_few
  have small : slack = 1 / 10 ^ 12 := rfl
  have lost : (profile.components.length : ℚ) * (101 * slack) ≤ 5 * (101 * slack) := by
    rw [small]
    gcongr
  refine ⟨raw, rawFound, natural, ?_⟩
  push_cast at high
  rw [abs_le] at summed shares exactly ⊢
  constructor <;> linarith

end Total

section Infinite
variable (infinite : (weights.total profile.components).toModel.unpack = .infinity .positive)
include infinite

private theorem share_infinite (part : Component) (scale : OnScale (valueOf values part)) :
    value? (share profile values weights part) = some 0 := by
  obtain ⟨value, found, _⟩ := scale
  have near := near_mul found (ratio_infinite (weight_found weights part).1 infinite)
  rw [mul_zero] at near
  rw [share, Weights.get_sanitized]
  exact near.value value_zero

theorem blend_infinite (scale : ∀ part, OnScale (valueOf values part)) :
    value? (blend profile values weights) = some 0 := by
  have nothing part := share_infinite infinite part (scale part)
  have none : (profile.components.map fun part => amount (share profile values weights part)).sum = 0 := by
    apply List.sum_eq_zero
    intro size present
    obtain ⟨part, _, rfl⟩ := List.mem_map.mp present
    exact amount_eq (nothing part)
  obtain ⟨raw, found, natural, _⟩ := blend_within fun part _ => ⟨0, nothing part, le_rfl, by norm_num⟩
  have error := parts_error (fun part _ => ⟨0, nothing part, le_rfl⟩) found
  rw [none, sub_zero, abs_of_nonneg natural] at error
  rw [found, le_antisymm (by linarith) natural]

end Infinite

end Blend

end ClipRank.Proofs.WeightedMean
