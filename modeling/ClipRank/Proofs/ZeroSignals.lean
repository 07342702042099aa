import ClipRank.Proofs.RateBounds

/-! A signal of exactly 0 scores exactly 0. No views, no reactions and no duration each
make some rates zero, and a component that is driven by such a rate alone is zero under
every profile, however the rest of the record looks. -/

namespace ClipRank.Proofs.ZeroSignals
open DoubleValue WholeDoubles Rounding SignedDoubles ScoreScale RateBounds
open Scalar Curve

variable {x : Float} {metrics : RawMetrics Float} {rates : Rates Float}

private theorem le_zero_iff {p : ℚ} (found : value? x = some p) : le x zero = true ↔ p ≤ 0 :=
  le_iff found value_zero

private theorem round1_zero (nothing : x = zero) : round1 x = 0.0 := by
  rw [nothing]
  decide

section Rates

private theorem perThousand_nothing (nothing : value? x = some 0) (views : UInt64) :
    value? (Rates.perThousand x views) = some 0 := by
  have thousand : value? 1000.0 = some ((1000 : Nat) : ℚ) := value_literal 1000 (by decide) (by decide)
  unfold Rates.perThousand
  split
  · exact value_zero
  next viewed =>
    obtain ⟨q, found, least⟩ := count_least viewed
    have ratio := near_div nothing found (zero_lt_one.trans_le least).ne'
    rw [zero_div] at ratio
    have product := near_mul (ratio.value value_zero) thousand
    rw [zero_mul] at product
    exact product.value value_zero

private theorem weightedEngagement_unseen (unseen : metrics.views = 0) :
    value? (Rates.weightedEngagement metrics) = some 0 := by
  unfold Rates.weightedEngagement Rates.perThousand
  rw [if_pos unseen]
  exact value_zero

private theorem weightedEngagement_silent (likes : metrics.likes = 0) (comments : metrics.comments = 0) :
    value? (Rates.weightedEngagement metrics) = some 0 := by
  unfold Rates.weightedEngagement
  rw [likes, comments]
  exact perThousand_nothing rfl metrics.views

private theorem dailyViews_unseen (unseen : metrics.views = 0) :
    value? (Rates.dailyViews metrics.sanitized) = some 0 := by
  obtain ⟨age, found, natural, _⟩ := positivePart_usable metrics.ageDays
  have counted : value? (ofCount metrics.sanitized.views : Float) = some 0 := by
    change value? metrics.views.toFloat = some 0
    rw [unseen]
    rfl
  unfold Rates.dailyViews
  split
  · exact counted
  next later =>
    have nonzero : age ≠ 0 := by
      rintro rfl
      exact later (Bool.and_eq_true_iff.mpr ⟨(le_iff value_zero found).mpr le_rfl, (le_iff found value_zero).mpr le_rfl⟩)
    have quotient := near_div counted found nonzero
    rw [zero_div] at quotient
    exact quotient.value value_zero

end Rates

section Components

private theorem reach_unseen (unseen : metrics.views = 0) : Score.reach metrics = zero :=
  if_pos unseen

private theorem engagement_nothing (nothing : value? rates.engagementRate = some 0) : Score.engagement rates = zero :=
  if_pos ((le_zero_iff nothing).mpr le_rfl)

private theorem community_silent (likes : metrics.likes = 0) (comments : metrics.comments = 0) :
    Score.community metrics rates = zero := by
  have silent : metrics.reactions = 0 := by
    unfold RawMetrics.reactions
    rw [likes, comments]
    rfl
  exact if_pos silent

/-- The factor for the age is finite, so it does not bring back an engagement of zero. -/
private theorem classicConsistency_nothing {age : ℚ} (found : value? metrics.ageDays = some age)
    (nothing : value? rates.engagementRate = some 0) : Score.classicConsistency metrics rates = zero := by
  obtain ⟨factor, same, _⟩ := ageFactor_within found
  have index := near_mul nothing same
  rw [zero_mul] at index
  exact if_pos ((le_zero_iff (index.value value_zero)).mpr le_rfl)

private theorem balancedConsistency_nothing (nothing : value? rates.viewsPerDay = some 0) :
    Score.balancedConsistency metrics rates = zero :=
  if_pos ((le_zero_iff nothing).mpr le_rfl)

private theorem efficiency_unseen (unseen : metrics.views = 0) : Score.efficiency metrics rates = zero := by
  apply if_pos
  simp [unseen]

private theorem efficiency_unmeasured (unmeasured : metrics.durationSeconds = zero) :
    Score.efficiency metrics rates = zero := by
  apply if_pos
  have nothing : value? metrics.durationSeconds = some 0 := unmeasured ▸ value_zero
  rw [(le_zero_iff nothing).mpr le_rfl, Bool.true_or]

end Components

/-- Every component and the composite of a record are on the scale. They are exactly 0
where what drives them is: the views, the likes and comments, or the duration. -/
theorem scores_bounded_and_zeroed (id title : String) (metrics : RawMetrics Float) (profile : Profile)
    (weights : Weights Float) :
    let record := ScoredRecord.ofMetrics id title metrics profile weights
    ((∀ part value, record.components.get? part = some value → OnScale value) ∧ OnScale record.compositeScore) ∧
    (metrics.views = 0 → record.components.reach = 0.0 ∧ record.components.engagement = 0.0 ∧
      record.components.consistency = 0.0 ∧ ∀ value, record.components.efficiency = some value → value = 0.0) ∧
    (metrics.likes = 0 → metrics.comments = 0 → record.components.engagement = 0.0 ∧
      record.components.community = 0.0 ∧ (profile = .classic → record.components.consistency = 0.0)) ∧
    (¬ (metrics.durationSeconds.isFinite = true ∧ 0.0 < metrics.durationSeconds) →
      ∀ value, record.components.efficiency = some value → value = 0.0) ∧
    (record.components.efficiency.isSome = true ↔ profile = .classic) := by
  intro record
  obtain ⟨age, found, natural, _⟩ := positivePart_usable metrics.ageDays
  have aged : value? metrics.sanitized.ageDays = some age := found
  have efficiency (nothing : Score.efficiency metrics.sanitized record.rates = zero) (value : Float)
      (present : record.components.efficiency = some value) : value = 0.0 := by
    cases profile with
    | classic => cases present; exact round1_zero nothing
    | balanced => cases present
  refine ⟨⟨?_, (ofMetrics_scale id title metrics profile weights).1⟩, ?_, ?_, ?_, ?_⟩
  · intro part value present
    exact components_scale profile _ aged natural present
  · intro unseen
    have engagement : value? record.rates.engagementRate = some 0 := weightedEngagement_unseen unseen
    refine ⟨round1_zero (reach_unseen unseen), round1_zero (engagement_nothing engagement), ?_,
      efficiency (efficiency_unseen unseen)⟩
    cases profile with
    | classic => exact round1_zero (classicConsistency_nothing aged engagement)
    | balanced => exact round1_zero (balancedConsistency_nothing (dailyViews_unseen unseen))
  · intro likes comments
    have engagement : value? record.rates.engagementRate = some 0 := weightedEngagement_silent likes comments
    refine ⟨round1_zero (engagement_nothing engagement), round1_zero (community_silent likes comments), ?_⟩
    rintro rfl
    exact round1_zero (classicConsistency_nothing aged engagement)
  · intro unmeasured
    apply efficiency
    apply efficiency_unmeasured
    exact if_neg fun usable => unmeasured (Bool.and_eq_true_iff.mp usable)
  · cases profile <;> simp [record, ScoredRecord.ofMetrics, ScoredRecord.ofComponents, Score.components]

/-- Neither an age nor weights that are no numbers get into the scores. -/
theorem unseen_and_unmeasured_scored :
    let metrics : RawMetrics Float := ⟨0, 0, 0, Binary64.nan, Binary64.infinity⟩
    let weights : Weights Float := ⟨Binary64.nan, Binary64.infinity, -1.0, 0.0, 2.0⟩
    let record := ScoredRecord.ofMetrics "a" "" metrics .classic weights
    OnScale record.compositeScore ∧ record.components.reach = 0.0 ∧ record.components.consistency = 0.0 ∧
      record.components.community = 0.0 ∧ ∀ value, record.components.efficiency = some value → value = 0.0 := by
  intro metrics weights record
  obtain ⟨⟨_, composite⟩, unseen, silent, unmeasured, _⟩ :=
    scores_bounded_and_zeroed "a" "" metrics .classic weights
  refine ⟨composite, (unseen rfl).1, (unseen rfl).2.2.1, (silent rfl rfl).2.1, unmeasured ?_⟩
  rintro ⟨finite, _⟩
  exact absurd finite (by decide)

end ClipRank.Proofs.ZeroSignals
