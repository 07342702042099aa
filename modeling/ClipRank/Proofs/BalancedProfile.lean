import ClipRank.Proofs.QueryStages
import ClipRank.Proofs.UsableWeights

/-! The balanced profile has no efficiency. It does not measure one, and since a profile
reads no weights but those of its components, the weight of the efficiency can be anything
without a score, an explanation or the answer to a query being another. -/

namespace ClipRank.Proofs.BalancedProfile
open QueryStages UsableWeights

theorem efficiency_alike {α : Type} [Scalar α] (weights : Weights α) (efficiency : α) :
    Alike Profile.balanced.components { weights with efficiency } weights := by
  intro component counted
  cases component with
  | efficiency => simp [Profile.components] at counted
  | _ => rfl

/-- What comes out for a record has no efficiency in it: neither a component, in the record
or in its view, nor a contribution, whatever the weights. -/
structure WithoutEfficiency (scored : ScoredRecord Float) : Prop where
  component : scored.components.efficiency = none
  view : (scored.toJson.get? "components").bind (·.get? "efficiency") = none
  contribution : ∀ weights, ∀ part ∈ (Explanation.ofRecord scored weights).components, part.component ≠ .efficiency

private theorem view_without {scored : ScoredRecord Float} (absent : scored.components.efficiency = none) :
    (scored.toJson.get? "components").bind (·.get? "efficiency") = none := by
  change scored.components.toJson.get? "efficiency" = none
  unfold Components.toJson
  rw [absent]
  rfl

private theorem contributed {α : Type} [Scalar α] {record : ScoredRecord α} {weights : Weights α} {part : Contribution α}
    (present : part ∈ (Explanation.ofRecord record weights).components) :
    part.component ∈ record.profile.components := by
  obtain ⟨component, counted, rfl⟩ := List.mem_map.mp (List.mem_mergeSort.mp present)
  exact counted

private theorem balanced_without (record : VideoRecord) (weights : Weights Float) (now : Timestamp) :
    WithoutEfficiency (.ofRecord record .balanced weights now) where
  component := rfl
  view := view_without rfl
  contribution := by
    intro others part present missing
    have counted : part.component ∈ Profile.balanced.components := contributed present
    simp [missing, Profile.components] at counted

private theorem ranked_from {records : List VideoRecord} {weights : Weights Float} {now : Timestamp}
    {scored : ScoredRecord Float}
    (present : scored ∈ ScoredRecord.rank (ScoredRecord.ofRecords records .balanced weights now)) :
    ∃ record, scored = .ofRecord record .balanced weights now := by
  obtain ⟨record, _, rfl⟩ := List.mem_map.mp (List.mem_mergeSort.mp present)
  exact ⟨record, rfl⟩

/-- Two runs that differ in the weight of the efficiency give the same ranking, the same
explanations and the same answers, and none of them has an efficiency. -/
theorem efficiency_weight_unseen (records : List VideoRecord) (now : Timestamp) (weights : Weights Float)
    (efficiency : Float) :
    let other : Weights Float := { weights with efficiency }
    let ranked (weights : Weights Float) :=
      ScoredRecord.rank (ScoredRecord.ofRecords records .balanced weights now)
    ranked other = ranked weights ∧
    (ranked other).map (Explanation.ofRecord · other) = (ranked weights).map (Explanation.ofRecord · weights) ∧
    (∀ query : Query, query.execute (ranked other) = query.execute (ranked weights)) ∧
    (∀ scored ∈ ranked weights, WithoutEfficiency scored) ∧
    ∀ (query : Query), ∀ scored ∈ (query.execute (ranked weights)).records, WithoutEfficiency scored := by
  intro other ranked
  have alike := efficiency_alike weights efficiency
  have same : ranked other = ranked weights := congrArg ScoredRecord.rank (alike.ofRecords records now)
  have without : ∀ scored ∈ ranked weights, WithoutEfficiency scored := by
    intro scored present
    obtain ⟨record, rfl⟩ := ranked_from present
    exact balanced_without record weights now
  refine ⟨same, ?_, fun query => by rw [same], without,
    fun query scored answered => without scored (execute_subset _ query answered)⟩
  rw [same]
  refine List.map_congr_left fun scored present => ?_
  obtain ⟨record, rfl⟩ := ranked_from present
  exact Alike.explanation alike

end ClipRank.Proofs.BalancedProfile
