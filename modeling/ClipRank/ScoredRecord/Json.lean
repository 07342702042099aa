import ClipRank.ScoredRecord
import ClipRank.Component.Json
import ClipRank.Metrics.Json

/-!
Scored records as JSON.
-/

namespace ClipRank

open Json (Decoder Shape Field)

namespace Grade

def decoder : Decoder Grade :=
  Decoder.variant (all.map fun grade => (grade.name, grade))

end Grade

namespace ScoredRecord

def shape : Shape (ScoredRecord Float) where
  name := "struct ScoredRecord"
  start := ⟨"", "", .classic, RawMetrics.shape.start, Rates.shape.start, Components.shape.start, 0.0, .low, false, []⟩
  fields := [
    Field.make "id" .refused Decoder.string fun value held => { held with id := value },
    Field.make "title" .refused Decoder.string fun value held => { held with title := value },
    Field.make "profile" .refused Profile.decoder fun value held => { held with profile := value },
    Field.make "rawMetrics" .refused RawMetrics.decoder fun value held => { held with rawMetrics := value },
    Field.make "rates" .refused Rates.decoder fun value held => { held with rates := value },
    Field.make "components" .refused Components.decoder fun value held => { held with components := value },
    Field.make "compositeScore" .refused Decoder.float fun value held => { held with compositeScore := value },
    Field.make "grade" .refused Grade.decoder fun value held => { held with grade := value },
    Field.make "isShort" .refused Decoder.boolean fun value held => { held with isShort := value },
    Field.make "metadata" .default Decoder.members fun value held => { held with metadata := value }]

def decoder : Decoder (ScoredRecord Float) :=
  shape.decoder

/-- An empty map of metadata is left out. -/
def toJson (record : ScoredRecord Float) : Json :=
  .object <|
    [("id", .string record.id), ("title", .string record.title), ("profile", .string record.profile.name),
      ("rawMetrics", record.rawMetrics.toJson), ("rates", record.rates.toJson),
      ("components", record.components.toJson), ("compositeScore", .ofFloat record.compositeScore),
      ("grade", .string record.grade.name), ("isShort", .boolean record.isShort)] ++
    (if record.metadata.isEmpty then [] else [("metadata", Json.object record.metadata)])

end ScoredRecord

end ClipRank
