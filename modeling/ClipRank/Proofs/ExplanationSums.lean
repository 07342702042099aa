import ClipRank.Proofs.WeightProportions
import Mathlib.Algebra.BigOperators.Ring.Finset

/-! The parts of an explanation add up. Percentages, contributions and the composite are
rounded each on its own from the same shares, so their sums are off by no more than the
rounding of five parts and of the composite comes to. -/

namespace ClipRank.Proofs.ExplanationSums
open Scalar Curve ExactNumbers ExtendedNumbers Extended UsableWeights WeightProportions

variable {K : Type} [Field K] [LinearOrder K] [IsStrictOrderedRing K] [FloorRing K] {exp log10 : K → K}

/-- A number from 0 to 100. -/
def OnScale (value : Extended exp log10) : Prop :=
  ∃ score, value = number score ∧ 0 ≤ score ∧ score ≤ 100

/-- The value of a component as it counts, 0 if it is absent. -/
def scoreOf (values : Components (Extended exp log10)) (part : Component) : Exact exp log10 :=
  usable ((values.get? part).getD zero)

/-- The share of a component in the weight of a profile. -/
def share (profile : Profile) (weights : Weights (Extended exp log10)) (part : Component) : Exact exp log10 :=
  weightOf weights part / (profile.components.map (weightOf weights)).sum

/-- A profile has five components at most. -/
private theorem parts_close {profile : Profile} {f g : Component → K} {error : K} (natural : 0 ≤ error)
    (near : ∀ part ∈ profile.components, |f part - g part| ≤ error) :
    |(profile.components.map f).sum - (profile.components.map g).sum| ≤ 5 * error := by
  have few : (profile.components.length : K) ≤ 5 := by exact_mod_cast profile.components_few
  exact (sums_close near).trans (mul_le_mul_of_nonneg_right few natural)

section Score
variable {values : Components (Extended exp log10)} (scale : ∀ part value, values.get? part = some value → OnScale value)
include scale

theorem score_number (part : Component) : (values.get? part).getD zero = number (scoreOf values part) ∧
    0 ≤ scoreOf values part ∧ scoreOf values part ≤ 100 := by
  have counted : OnScale ((values.get? part).getD zero) := by
    cases given : values.get? part with
    | none => exact ⟨0, zero_number, le_rfl, by norm_num⟩
    | some value => exact scale part value given
  obtain ⟨score, found, natural, most⟩ := counted
  have own : scoreOf values part = score := by
    rw [scoreOf, found]
    exact max_eq_right natural
  rw [own]
  exact ⟨found, natural, most⟩

end Score

section Shares
variable {profile : Profile} {weights : Weights (Extended exp log10)}

/-- Some component of the profile has a weight that counts. -/
def Weighted (profile : Profile) (weights : Weights (Extended exp log10)) : Prop :=
  ∃ part ∈ profile.components, ∃ weight, weights.get part = number weight ∧ 0 < weight

theorem Weighted.total_pos (weighted : Weighted profile weights) :
    0 < (profile.components.map (weightOf weights)).sum := by
  obtain ⟨part, member, weight, given, positive⟩ := weighted
  have own : weightOf weights part = weight := by
    rw [weightOf, given]
    exact max_eq_right positive.le
  calc 0 < weightOf weights part := by rwa [own]
    _ ≤ (profile.components.map (weightOf weights)).sum :=
      List.single_le_sum (weights_nonneg weights _) _ (List.mem_map_of_mem member)

variable (weighted : Weighted profile weights)
include weighted

theorem share_nonneg (part : Component) : 0 ≤ share profile weights part :=
  div_nonneg (usable_nonneg _) weighted.total_pos.le

theorem shares_whole : (profile.components.map (share profile weights)).sum = 1 := by
  have divided : profile.components.map (share profile weights) =
      profile.components.map fun part => weightOf weights part * (profile.components.map (weightOf weights)).sum⁻¹ :=
    List.map_congr_left fun _ _ => div_eq_mul_inv _ _
  rw [divided, List.sum_map_mul_right, mul_inv_cancel₀ weighted.total_pos.ne']

theorem share_le_one {part : Component} (member : part ∈ profile.components) : share profile weights part ≤ 1 :=
  (div_le_one weighted.total_pos).mpr (List.single_le_sum (weights_nonneg weights _) _ (List.mem_map_of_mem member))

theorem share_number (part : Component) : weights.sanitized.get part / weights.total profile.components =
    number (share profile weights part) := by
  rw [get_usable, total_usable, number_div weighted.total_pos.ne', share]

theorem percent_number {part : Component} (member : part ∈ profile.components) :
    weights.percent part profile.components = toWord (Scalar.round (share profile weights part * 100)) := by
  have counted : ¬ (le (weights.total profile.components) zero || !profile.components.contains part) = true := by
    rw [total_usable, zero_number, Bool.or_eq_true, le_number, not_or, not_le]
    exact ⟨weighted.total_pos, by simpa using member⟩
  have hundred : (100.0 : Exact exp log10) = 100 := by norm_num
  unfold Weights.percent
  rw [if_neg counted, ← Weights.get_sanitized, share_number weighted, ← hundred]
  rfl

end Shares

section Blend
variable {profile : Profile} {values : Components (Extended exp log10)} {weights : Weights (Extended exp log10)}

/-- The mean of the components, before it is rounded. -/
def mean (profile : Profile) (values : Components (Extended exp log10)) (weights : Weights (Extended exp log10)) :
    Exact exp log10 :=
  (profile.components.map fun part => scoreOf values part * share profile weights part).sum

variable (weighted : Weighted profile weights) (scale : ∀ part value, values.get? part = some value → OnScale value)
include weighted scale

theorem mean_bounds : 0 ≤ mean profile values weights ∧ mean profile values weights ≤ 100 := by
  constructor
  · apply List.sum_nonneg
    intro term present
    obtain ⟨part, _, rfl⟩ := List.mem_map.mp present
    exact mul_nonneg (score_number scale part).2.1 (share_nonneg weighted part)
  · calc mean profile values weights
        ≤ (profile.components.map fun part => 100 * share profile weights part).sum := by
          apply List.sum_le_sum
          intro part _
          exact mul_le_mul_of_nonneg_right (score_number scale part).2.2 (share_nonneg weighted part)
      _ = 100 := by rw [List.sum_map_mul_left, shares_whole weighted, mul_one]

theorem composite_number : Score.composite profile values weights = number (round1 (mean profile values weights)) := by
  have unweighted : ¬ le (weights.total profile.components) zero = true := by
    rw [total_usable, zero_number, le_number, not_le]
    exact weighted.total_pos
  have terms : (profile.components.map fun part =>
      (values.get? part).getD zero * (weights.sanitized.get part / weights.total profile.components)) =
        (profile.components.map fun part => scoreOf values part * share profile weights part).map number := by
    rw [List.map_map]
    refine List.map_congr_left fun part _ => ?_
    rw [(score_number scale part).1, share_number weighted]
    rfl
  obtain ⟨low, high⟩ := mean_bounds weighted scale
  have clamped : clamp zero 100.0 (number (mean profile values weights)) = number (mean profile values weights) := by
    have kept := clamp_scale (mean profile values weights)
    rw [min_eq_right high, max_eq_right low, zero_eq] at kept
    rw [zero_number]
    exact clamp_number.trans (congrArg number kept)
  unfold Score.composite
  dsimp only
  rw [if_neg unweighted, terms, sum_numbers, ← mean, clamped, round1_number]

end Blend

section Explanation
variable {record : ScoredRecord (Extended exp log10)} {weights : Weights (Extended exp log10)}
variable (weighted : Weighted record.profile weights)

include weighted in
private theorem percent_error {part : Component} (member : part ∈ record.profile.components) :
    |((Explanation.contributionOf record weights part).weightPercent.toNat : Exact exp log10) -
      share record.profile weights part * 100| ≤ 1 / 2 := by
  have natural := share_nonneg weighted part
  have most := share_le_one weighted member
  have word : (Explanation.contributionOf record weights part).weightPercent =
      toWord (Scalar.round (share record.profile weights part * 100)) :=
    ((sanitized_alike weights _).percent part).trans (percent_number weighted member)
  rw [word, toWord_round (by positivity) (by linarith)]
  exact round_error _

/-- What a component contributes to the mean, to one decimal. -/
def rounded (record : ScoredRecord (Extended exp log10)) (weights : Weights (Extended exp log10)) (part : Component) :
    Exact exp log10 :=
  round1 (scoreOf record.components part * share record.profile weights part)

include weighted in
private theorem contribution_number
    (scale : ∀ part value, record.components.get? part = some value → OnScale value) (part : Component) :
    (Explanation.contributionOf record weights part).contribution = number (rounded record weights part) := by
  have counted : lt zero (weights.total record.profile.components) = true := by
    rw [total_usable, zero_number, lt_number]
    exact weighted.total_pos
  unfold Explanation.contributionOf
  dsimp only
  rw [if_pos counted, (score_number scale part).1, share_number weighted, number_mul, round1_number, rounded]

include weighted in
private theorem percents_close : |(Nat.cast
      ((Explanation.ofRecord record weights).components.map fun part => part.weightPercent.toNat).sum : Exact exp log10) - 100| ≤
      5 / 2 := by
  have shares : (record.profile.components.map fun part => share record.profile weights part * 100).sum = 100 := by
    rw [List.sum_map_mul_right, shares_whole weighted, one_mul]
  have listed := ((Explanation.components_perm record weights).map fun part => part.weightPercent.toNat).sum_eq
  rw [listed, List.map_map, Nat.cast_list_sum, List.map_map, ← shares]
  refine (parts_close (by norm_num) fun part member => percent_error weighted member).trans ?_
  norm_num

include weighted in
/-- The contributions in the order in which they are listed. -/
private theorem contributions_listed
    (scale : ∀ part value, record.components.get? part = some value → OnScale value) :
    ∃ contributions : List (Exact exp log10),
      (Explanation.ofRecord record weights).components.map Contribution.contribution = contributions.map number ∧
      |contributions.sum - mean record.profile record.components weights| ≤ 1 / 4 := by
  have listed := Explanation.components_perm record weights
  refine ⟨(Explanation.ofRecord record weights).components.map fun part => rounded record weights part.component, ?_, ?_⟩
  · rw [List.map_map]
    refine List.map_congr_left fun part present => ?_
    obtain ⟨component, _, rfl⟩ := List.mem_map.mp (listed.mem_iff.mp present)
    exact contribution_number weighted scale component
  · rw [(listed.map fun part => rounded record weights part.component).sum_eq, List.map_map]
    refine (parts_close (by norm_num) fun part _ => round1_error _).trans ?_
    norm_num

end Explanation

/-- The percentages of an explanation come to 100 but for 2 at most, and its contributions
come to its composite but for three tenths at most. -/
theorem parts_add_up (record : ScoredRecord (Extended exp log10)) (weights : Weights (Extended exp log10))
    (scale : ∀ part value, record.components.get? part = some value → OnScale value)
    (weighted : Weighted record.profile weights) :
    let explanation := Explanation.ofRecord record weights
    let percents := (explanation.components.map fun part => part.weightPercent.toNat).sum
    98 ≤ percents ∧ percents ≤ 102 ∧
    ∃ (score : Exact exp log10) (contributions : List (Exact exp log10)),
      explanation.compositeScore = number score ∧
      explanation.components.map Contribution.contribution = contributions.map number ∧
      |contributions.sum - score| ≤ 3 / 10 := by
  intro explanation percents
  have whole : |(percents : Exact exp log10) - 100| ≤ 5 / 2 := percents_close weighted
  obtain ⟨low, high⟩ := abs_le.mp whole
  obtain ⟨contributions, listed, close⟩ := contributions_listed weighted scale
  have rounded := round1_error (mean record.profile record.components weights)
  refine ⟨?_, ?_, _, contributions, composite_number weighted scale, listed, ?_⟩
  · -- A whole number that is at most two and a half below 100 is at most two below.
    by_contra below
    have few : (percents : Exact exp log10) ≤ 97 := by exact_mod_cast Nat.lt_succ_iff.mp (not_le.mp below)
    linarith
  · by_contra above
    have many : (103 : Exact exp log10) ≤ percents := by exact_mod_cast Nat.succ_le_iff.mpr (not_le.mp above)
    linarith
  · rw [abs_le] at close rounded ⊢
    constructor <;> linarith

/-- Four shares that all lie halfway between two whole percentages. -/
theorem halfway_shares_add_up :
    let record : ScoredRecord (Extended (K := ℚ) id id) :=
      { ScoredRecord.ofMetrics "a" "First" ⟨1000, 50, 5, 10.0, 90.0⟩ .classic default with
        components := ⟨number 90, number 15, number 0, number 100, none⟩ }
    let weights : Weights (Extended (K := ℚ) id id) := ⟨number 1, number 1, number 1, number 5, notANumber⟩
    let explanation := Explanation.ofRecord record weights
    let percents := (explanation.components.map fun part => part.weightPercent.toNat).sum
    (∀ part value, record.components.get? part = some value → OnScale value) ∧ Weighted record.profile weights ∧
      98 ≤ percents ∧ percents ≤ 102 ∧
      ∃ (score : Exact (K := ℚ) id id) (contributions : List (Exact (K := ℚ) id id)),
        explanation.compositeScore = number score ∧
        explanation.components.map Contribution.contribution = contributions.map number ∧
        |contributions.sum - score| ≤ 3 / 10 := by
  intro record weights explanation percents
  have scale : ∀ part value, record.components.get? part = some value → OnScale value := by
    intro part value present
    cases part with
    | reach => cases present; exact ⟨90, rfl, by norm_num, by norm_num⟩
    | engagement => cases present; exact ⟨15, rfl, by norm_num, by norm_num⟩
    | consistency => cases present; exact ⟨0, rfl, by norm_num, by norm_num⟩
    | community => cases present; exact ⟨100, rfl, by norm_num, by norm_num⟩
    | efficiency => cases present
  have weighted : Weighted record.profile weights := ⟨.reach, by decide, 1, rfl, by norm_num⟩
  exact ⟨scale, weighted, parts_add_up record weights scale weighted⟩

end ClipRank.Proofs.ExplanationSums
