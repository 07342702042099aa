import ClipRank.Proofs.BatchIntake
import ClipRank.Proofs.Metering
import ClipRank.Proofs.ScoreScale
import ClipRank.Proofs.StableSort
import ClipRank.Proofs.ValueOrder

/-! The order in which a batch comes out of the engine. Records are ranked by the total
order of their scores, and since no score is a NaN or a negative zero, that is the order
of the values: what ties in it is equal, and what is not below in it has no worse grade. -/

namespace ClipRank.Proofs.ScoreRanking
open BatchIntake StableSort DoubleValue SignedDoubles ScoreScale ValueOrder

section Grade
variable {better worse : Float}

end Grade

section Rank
variable (records : List VideoRecord) (profile : Profile) (weights : Weights Float) (now : Timestamp)

/-- What the record at a position is scored as. -/
def scored (position : Fin records.length) : ScoredRecord Float :=
  .ofRecord (records.get position).normalized profile weights now

private def scoreAt (position : Fin records.length) : Float :=
  (scored records profile weights now position).compositeScore

private def ranking : List (Fin records.length) :=
  (firsts records).mergeSort fun first second => (bestFirst (scoreAt records profile weights now) first second).isLE

private theorem distinct : (ranking records profile weights now).Nodup :=
  (List.mergeSort_perm _ _).nodup_iff.mpr ((List.nodup_finRange _).filter _)

end Rank

end ClipRank.Proofs.ScoreRanking
