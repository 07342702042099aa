import ClipRank.Metrics
import ClipRank.Json.Shape

/-!
Raw counters and rates as JSON.
-/

namespace ClipRank

open Json (Decoder Shape Field)

namespace RawMetrics

def shape : Shape (RawMetrics Float) where
  name := "struct RawMetrics"
  start := ⟨0, 0, 0, 0.0, 0.0⟩
  fields := [
    Field.make "views" .default (Decoder.word "u64") fun value held => { held with views := value },
    Field.make "likes" .default (Decoder.word "u64") fun value held => { held with likes := value },
    Field.make "comments" .default (Decoder.word "u64") fun value held => { held with comments := value },
    Field.make "ageDays" .default Decoder.float fun value held => { held with ageDays := value },
    Field.make "durationSeconds" .default Decoder.float fun value held => { held with durationSeconds := value }]

def decoder : Decoder (RawMetrics Float) :=
  shape.decoder

def toJson (metrics : RawMetrics Float) : Json :=
  .object [("views", .ofUInt64 metrics.views), ("likes", .ofUInt64 metrics.likes),
    ("comments", .ofUInt64 metrics.comments), ("ageDays", .ofFloat metrics.ageDays),
    ("durationSeconds", .ofFloat metrics.durationSeconds)]

end RawMetrics

namespace Rates

def shape : Shape (Rates Float) where
  name := "struct Rates"
  start := ⟨0.0, 0.0, 0.0, 0.0, 0.0, 0.0⟩
  fields := [
    Field.make "likeRate" .refused Decoder.float fun value held => { held with likeRate := value },
    Field.make "commentRate" .refused Decoder.float fun value held => { held with commentRate := value },
    Field.make "engagementRate" .refused Decoder.float fun value held => { held with engagementRate := value },
    Field.make "viewsPerDay" .refused Decoder.float fun value held => { held with viewsPerDay := value },
    Field.make "viewsPerMinute" .refused Decoder.float fun value held => { held with viewsPerMinute := value },
    Field.make "engagementPerMinute" .refused Decoder.float fun value held =>
      { held with engagementPerMinute := value }]

def decoder : Decoder (Rates Float) :=
  shape.decoder

def toJson (rates : Rates Float) : Json :=
  .object [("likeRate", .ofFloat rates.likeRate), ("commentRate", .ofFloat rates.commentRate),
    ("engagementRate", .ofFloat rates.engagementRate), ("viewsPerDay", .ofFloat rates.viewsPerDay),
    ("viewsPerMinute", .ofFloat rates.viewsPerMinute),
    ("engagementPerMinute", .ofFloat rates.engagementPerMinute)]

end Rates

end ClipRank
