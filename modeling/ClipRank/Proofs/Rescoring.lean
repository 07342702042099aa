import ClipRank.ScoredRecord

/-! Blending anew starts from the components that a record holds, as they were rounded, and
from its profile, and these do not depend on weights. So of all weights a record was ever
blended under only the last show in it, and it is the record scored afresh under them. -/

namespace ClipRank.Proofs.Rescoring

section Blend
variable {α : Type} [Scalar α]

theorem rescore_rescore (record : ScoredRecord α) (first second : Weights α) :
    (record.rescore first).rescore second = record.rescore second :=
  rfl

/-- Only the last weights count. -/
theorem foldl_rescore (record : ScoredRecord α) (earlier : List (Weights α)) (last : Weights α) :
    (earlier ++ [last]).foldl ScoredRecord.rescore record = record.rescore last := by
  induction earlier generalizing record with
  | nil => rfl
  | cons first rest ih =>
    rw [List.cons_append, List.foldl_cons, ih]
    exact rescore_rescore record first last

theorem rescore_ofMetrics (id title : String) (metrics : RawMetrics α) (profile : Profile) (weights later : Weights α) :
    (ScoredRecord.ofMetrics id title metrics profile weights).rescore later = .ofMetrics id title metrics profile later :=
  rfl

end Blend

theorem rescore_ofRecord (record : VideoRecord) (profile : Profile) (weights later : Weights Float) (now : Timestamp) :
    (ScoredRecord.ofRecord record profile weights now).rescore later = .ofRecord record profile later now := by
  have blended := rescore_ofMetrics record.id record.title (record.rawMetrics now) profile weights later
  exact congrArg (fun scored => { scored with metadata := record.metadata }) blended

/-- Scoring under some weights and blending anew under others, any number of times, gives
what scoring under the last of them does, in every field. -/
theorem rescored_afresh (record : VideoRecord) (profile : Profile) (now : Timestamp) (start : Weights Float)
    (earlier : List (Weights Float)) (last : Weights Float) :
    (earlier ++ [last]).foldl ScoredRecord.rescore (.ofRecord record profile start now) =
      .ofRecord record profile last now := by
  rw [foldl_rescore]
  exact rescore_ofRecord record profile start last now

end ClipRank.Proofs.Rescoring
