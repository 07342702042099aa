import ClipRank.Proofs.ExtendedNumbers
import ClipRank.Proofs.UsableWeights
import Mathlib.Algebra.BigOperators.Ring.List
import Mathlib.Data.Rat.Floor

/-! Only the proportions of weights count. A positive factor leaves the usable part of every
weight in proportion, also after the others are replaced by 0, and whatever reads a weight
divides it by the sum of some. -/

namespace ClipRank.Proofs.WeightProportions
open Scalar ExactNumbers ExtendedNumbers Extended UsableWeights

section Usable
variable {K : Type} [Field K] [LinearOrder K] [FloorRing K] {exp log10 : K → K}

/-- What counts of the weight of a component. -/
def weightOf (weights : Weights (Extended exp log10)) (part : Component) : Exact exp log10 :=
  usable (weights.get part)

theorem get_usable (weights : Weights (Extended exp log10)) (part : Component) :
    weights.sanitized.get part = number (weightOf weights part) := by
  rw [Weights.get_sanitized, positivePart_usable, weightOf]

theorem total_usable (weights : Weights (Extended exp log10)) (parts : List Component) :
    weights.total parts = number (parts.map (weightOf weights)).sum := by
  have usableParts : (parts.map fun part => positivePart (weights.get part)) = (parts.map (weightOf weights)).map number := by
    rw [List.map_map]
    exact List.map_congr_left fun part _ => positivePart_usable (weights.get part)
  rw [Weights.total, usableParts, sum_numbers]

omit [FloorRing K] in
theorem weights_nonneg (weights : Weights (Extended exp log10)) (parts : List Component) :
    ∀ weight ∈ parts.map (weightOf weights), 0 ≤ weight := by
  intro weight present
  obtain ⟨part, _, rfl⟩ := List.mem_map.mp present
  exact usable_nonneg _

end Usable

section Scaled
variable {K : Type} [Field K] [LinearOrder K] [IsStrictOrderedRing K] [FloorRing K] {exp log10 : K → K}
variable (weights : Weights (Extended exp log10)) {factor : Exact exp log10} (positive : 0 < factor)
include positive

theorem weightOf_scaled (part : Component) :
    weightOf (weights.scaled (number factor)) part = weightOf weights part * factor := by
  have scaled : (weights.scaled (number factor)).get part = positivePart (weights.get part * number factor) := by
    cases part <;> rfl
  rw [weightOf, scaled, positivePart_usable, usable_scaled _ positive]
  exact max_eq_right (mul_nonneg (usable_nonneg _) positive.le)

theorem total_scaled (parts : List Component) : (weights.scaled (number factor)).total parts =
    number ((parts.map (weightOf weights)).sum * factor) := by
  rw [total_usable, ← List.sum_map_mul_right]
  exact congrArg (fun terms => number terms.sum) (List.map_congr_left fun part _ => weightOf_scaled weights positive part)

/-- The share of a weight is that of the weight before. -/
theorem share_scaled (part : Component) (parts : List Component) :
    (weights.scaled (number factor)).sanitized.get part / (weights.scaled (number factor)).total parts =
      weights.sanitized.get part / weights.total parts := by
  rw [get_usable, weightOf_scaled weights positive, total_scaled weights positive, ratio_scaled _ _ positive, get_usable,
    total_usable]

theorem weighted_scaled (parts : List Component) :
    lt zero ((weights.scaled (number factor)).total parts) = lt zero (weights.total parts) := by
  rw [total_scaled weights positive, total_usable, zero_number, Bool.eq_iff_iff, lt_number, lt_number]
  exact mul_pos_iff_of_pos_right positive

theorem unweighted_scaled (parts : List Component) :
    le ((weights.scaled (number factor)).total parts) zero = le (weights.total parts) zero := by
  rw [total_scaled weights positive, total_usable, zero_number, Bool.eq_iff_iff, le_number, le_number, ← not_lt, ← not_lt]
  exact not_congr (mul_pos_iff_of_pos_right positive)

theorem composite_scaled (profile : Profile) (values : Components (Extended exp log10)) :
    Score.composite profile values (weights.scaled (number factor)) = Score.composite profile values weights := by
  unfold Score.composite
  simp only [unweighted_scaled weights positive, share_scaled weights positive]

theorem percent_scaled (part : Component) (parts : List Component) :
    (weights.scaled (number factor)).percent part parts = weights.percent part parts := by
  unfold Weights.percent
  simp only [unweighted_scaled weights positive, ← Weights.get_sanitized, share_scaled weights positive]

theorem contributionOf_scaled (record : ScoredRecord (Extended exp log10)) (part : Component) :
    Explanation.contributionOf record (weights.scaled (number factor)) part =
      Explanation.contributionOf record weights part := by
  have percents (others : Weights (Extended exp log10)) : others.sanitized.percent part record.profile.components =
      others.percent part record.profile.components := (sanitized_alike others _).percent part
  unfold Explanation.contributionOf
  simp only [weighted_scaled weights positive, share_scaled weights positive, percents, percent_scaled weights positive]

theorem explanation_scaled (record : ScoredRecord (Extended exp log10)) :
    Explanation.ofRecord record (weights.scaled (number factor)) = .ofRecord record weights := by
  have parts : record.profile.components.map (Explanation.contributionOf record (weights.scaled (number factor))) =
      record.profile.components.map (Explanation.contributionOf record weights) :=
    List.map_congr_left fun part _ => contributionOf_scaled weights positive record part
  unfold Explanation.ofRecord
  simp only [composite_scaled weights positive, parts]

end Scaled

section Multiples
variable {K : Type} [Field K] [LinearOrder K] [IsStrictOrderedRing K] [FloorRing K] {exp log10 : K → K}

/-- A positive multiple of weights gives the same composites, percentages and explanations
as they do, whatever is among the weights and the components. -/
theorem multiples_alike (weights : Weights (Extended exp log10)) {factor : Exact exp log10} (positive : 0 < factor) :
    let scaled := weights.scaled (number factor)
    (∀ profile values, Score.composite profile values scaled = Score.composite profile values weights) ∧
    (∀ part parts, scaled.percent part parts = weights.percent part parts) ∧
    ∀ record, Explanation.ofRecord record scaled = .ofRecord record weights := by
  intro scaled
  exact ⟨composite_scaled weights positive, percent_scaled weights positive, explanation_scaled weights positive⟩

theorem tripled_alike :
    let weights : Weights (Extended (K := ℚ) id id) := ⟨35.0, -20.0, 0.5, notANumber, infinite false⟩
    let values : Components (Extended (K := ℚ) id id) := ⟨90.0, 10.5, 0.1, 33.3, none⟩
    (0 : Exact (K := ℚ) id id) < 3 ∧
      Score.composite .classic values (weights.scaled (number 3)) = Score.composite .classic values weights := by
  intro weights values
  have positive : (0 : Exact (K := ℚ) id id) < 3 := by norm_num
  exact ⟨positive, (multiples_alike weights positive).1 .classic values⟩

end Multiples

end ClipRank.Proofs.WeightProportions
