import ClipRank.Grade
import ClipRank.Score
import ClipRank.Duration
import ClipRank.VideoRecord

/-!
Scored records: scoring, blending anew under other weights, and ranking.
-/

namespace ClipRank

structure ScoredRecord (α : Type) where
  id : String
  title : String
  profile : Profile
  rawMetrics : RawMetrics α
  rates : Rates α
  components : Components α
  compositeScore : α
  grade : Grade
  isShort : Bool
  metadata : Members

namespace ScoredRecord

open Scalar

variable {α : Type} [Scalar α]

/-- The record of counters with these components. There is no metadata. -/
def ofComponents (id title : String) (metrics : RawMetrics α) (profile : Profile) (components : Components α)
    (weights : Weights α) : ScoredRecord α :=
  let compositeScore := Score.composite profile components weights
  { id, title, profile, rawMetrics := metrics, rates := Rates.ofMetrics metrics, components, compositeScore
    grade := Grade.ofScore compositeScore
    isShort := Duration.isShort metrics.durationSeconds
    metadata := [] }

/-- Scores counters. -/
def ofMetrics (id title : String) (metrics : RawMetrics α) (profile : Profile) (weights : Weights α) :
    ScoredRecord α :=
  let metrics := metrics.sanitized
  ofComponents id title metrics profile (Score.components profile metrics (Rates.ofMetrics metrics)) weights

/-- Scores counters whose likes and comments have a sum. -/
def ofMetrics? (id title : String) (metrics : RawMetrics α) (profile : Profile) (weights : Weights α) :
    Option (ScoredRecord α) :=
  let metrics := metrics.sanitized
  (Score.components? profile metrics).map fun components => ofComponents id title metrics profile components weights

/-- Blends the components anew. Nothing but the composite and its grade changes. -/
def rescore (record : ScoredRecord α) (weights : Weights α) : ScoredRecord α :=
  let compositeScore := Score.composite record.profile record.components weights
  { record with compositeScore, grade := Grade.ofScore compositeScore }

/-- Best first. Records of equal score keep their order. -/
def rank (records : List (ScoredRecord α)) : List (ScoredRecord α) :=
  records.mergeSort fun first second => (order second.compositeScore first.compositeScore).isLE

/-- Scores a delivered record. -/
def ofRecord (record : VideoRecord) (profile : Profile) (weights : Weights Float) (now : Timestamp) :
    ScoredRecord Float :=
  { ofMetrics record.id record.title (record.rawMetrics now) profile weights with
    metadata := record.metadata }

/-- Scores a delivered record whose likes and comments have a sum. -/
def ofRecord? (record : VideoRecord) (profile : Profile) (weights : Weights Float) (now : Timestamp) :
    Option (ScoredRecord Float) :=
  (ofMetrics? record.id record.title (record.rawMetrics now) profile weights).map fun scored =>
    { scored with metadata := record.metadata }

/-- Scores a batch in its order. -/
def ofRecords (records : List VideoRecord) (profile : Profile) (weights : Weights Float) (now : Timestamp) :
    List (ScoredRecord Float) :=
  records.map fun record => ofRecord record profile weights now

end ScoredRecord

end ClipRank
