import ClipRank.Proofs.JsonRoundTrip
import ClipRank.Proofs.QueryStages
import ClipRank.Proofs.ScoreRanking

/-! A descending sort by the score and the ranking are one order. The sort looks at the
views of the records and the ranking at their scores, but a finite score stands in the
view as it is, and either way two scores are compared by the total order of doubles. -/

namespace ClipRank.Proofs.SortedAnswers
open QueryStages ValueOrder

section Score
variable {field : String} (named : Path.canonical field = "compositeScore")
include named

private theorem score_shown {record : ScoredRecord Float} (finite : record.compositeScore.isFinite = true) :
    Path.resolve? record.toJson field = some (.number (.real record.compositeScore)) := by
  have keys : Path.keys "compositeScore" = ["compositeScore"] := by decide
  have shown : record.toJson.get? "compositeScore" = some (.ofFloat record.compositeScore) := rfl
  unfold Path.resolve?
  rw [named]
  simp [keys, Path.walk?, shown, JsonRoundTrip.ofFloat_finite finite]

private theorem compare_scores {first second : ScoredRecord Float} (finite : first.compositeScore.isFinite = true)
    (other : second.compositeScore.isFinite = true) :
    compareRecords ⟨field, .descending⟩ first second = bestFirst ScoredRecord.compositeScore first second := by
  have swapped := totalOrder_trans.eq_swap (a := second.compositeScore) (b := first.compositeScore)
  unfold compareRecords bestFirst
  rw [score_shown named finite, score_shown named other, swapped]
  rfl

theorem arrange_score {records : List (ScoredRecord Float)}
    (finite : ∀ record ∈ records, record.compositeScore.isFinite = true) :
    arrange (some ⟨field, .descending⟩) records = ScoredRecord.rank records := by
  -- The comparisons agree on the records of the list. They need not agree on others.
  have same : ∀ first ∈ records, ∀ second ∈ records, (compareRecords ⟨field, .descending⟩ first second).isLE =
      (bestFirst ScoredRecord.compositeScore first second).isLE := by
    intro first member second present
    rw [compare_scores named (finite first member) (finite second present)]
  calc arrange (some ⟨field, .descending⟩) records
      = (arrange (some ⟨field, .descending⟩) records).map id := (List.map_id _).symm
    _ = ScoredRecord.rank (records.map id) := List.map_mergeSort same
    _ = ScoredRecord.rank records := by rw [List.map_id]

end Score

/-- Sorting by the score in a query gives the records in the order of their rank, ties
among them. -/
theorem score_sort_ranks (records : List (ScoredRecord Float))
    (finite : ∀ record ∈ records, record.compositeScore.isFinite = true) :
    ((Query.empty.sortedBy "score" .descending).execute records).records = ScoredRecord.rank records := by
  have named : Path.canonical "score" = "compositeScore" := by decide
  rw [execute_records]
  change arrange (some ⟨"score", .descending⟩) (narrow [] records) = _
  rw [narrow_nil, arrange_score named finite]

theorem tied_scores_rank :
    let scored (id : String) (score : Float) : ScoredRecord Float := { ScoredRecord.shape.start with id, compositeScore := score }
    let records := [scored "first" 40.0, scored "best" 55.5, scored "below" (-0.0), scored "second" 40.0, scored "zero" 0.0]
    (∀ record ∈ records, record.compositeScore.isFinite = true) ∧
      ((Query.empty.sortedBy "score" .descending).execute records).records = ScoredRecord.rank records := by
  intro scored records
  have finite : ∀ record ∈ records, record.compositeScore.isFinite = true := by decide
  exact ⟨finite, score_sort_ranks records finite⟩

end ClipRank.Proofs.SortedAnswers
