import ClipRank.Json.Basic
import ClipRank.Metrics
import ClipRank.Timestamp
import ClipRank.Title

/-!
Records as they are delivered, and how a batch of them is taken in.
-/

namespace ClipRank

structure VideoRecord where
  id : String
  title : String
  views : UInt64
  likes : UInt64
  comments : UInt64
  ageDays : Option Float
  publishedAt : Option Timestamp
  durationSeconds : Option Float
  /-- What is only displayed. Scoring does not look at it. -/
  metadata : Members

namespace VideoRecord

/-- The counters to score. An age that is not given is the whole days since
publication, or else 0. -/
def rawMetrics (record : VideoRecord) (now : Timestamp) : RawMetrics Float :=
  let published := record.publishedAt.map fun instant => Float.ofNat (instant.daysBetween now)
  RawMetrics.sanitized {
    views := record.views
    likes := record.likes
    comments := record.comments
    ageDays := (record.ageDays.or published).getD 0.0
    durationSeconds := record.durationSeconds.getD 0.0 }

/-- The record with its title and identifier in normal form. -/
def normalized (record : VideoRecord) : VideoRecord :=
  { record with id := Text.trim record.id, title := Title.normalize record.title }

end VideoRecord

/-- The records kept of a batch, and the number dropped. -/
structure Intake where
  kept : List VideoRecord
  dropped : Nat

namespace Intake

/-- Takes in records after those with the identifiers `seen`. A blank identifier and
one seen before drop the record. -/
def after (seen : List String) : List VideoRecord → Intake
  | [] => ⟨[], 0⟩
  | record :: rest =>
    let id := Text.trim record.id
    if id = "" ∨ id ∈ seen then
      let taken := after seen rest
      ⟨taken.kept, taken.dropped + 1⟩
    else
      let taken := after (id :: seen) rest
      ⟨record.normalized :: taken.kept, taken.dropped⟩

/-- Keeps the first record of each identifier, in the order of delivery. -/
def ofBatch (records : List VideoRecord) : Intake :=
  after [] records

end Intake

end ClipRank
