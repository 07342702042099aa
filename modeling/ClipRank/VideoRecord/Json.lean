import ClipRank.VideoRecord
import ClipRank.Duration
import ClipRank.Json.Shape

/-!
Delivered records as JSON. Counters may be numbers or numeric strings, and a
length may be seconds or an ISO 8601 duration; what is neither counts as 0 or as
not given.
-/

namespace ClipRank

open Json (Decoder Shape Field)

namespace Timestamp

def decoder : Decoder Timestamp
  | _, .string (some text) =>
    match parse text with
    | .ok timestamp => .ok timestamp
    | .error fault => .error (.ofMismatch (.unparsed fault.message))
  | _, document => Decoder.wrongType "an RFC 3339 formatted date and time string" document

end Timestamp

namespace VideoRecord

/-- A word in decimal digits, with an optional plus sign. -/
def readWord? (text : List Char) : Option UInt64 :=
  let digits := match text with
    | '+' :: rest => rest
    | rest => rest
  let value := Binary64.digitsValue digits
  if digits ≠ [] ∧ digits.all Char.isDigit ∧ value < Nat.pow 2 64 then some value.toUInt64 else none

/-- A counter. A number that is no word counts with its whole part. -/
def counter : Json → UInt64
  | .number number =>
    match number.toUInt64? with
    | some value => value
    | none =>
      let value := number.toFloat
      if value.isFinite && Float.lt 0.0 value then value.toUInt64 else 0
  | .string text => (readWord? (Text.trim text).toList).getD 0
  | _ => 0

/-- A length in seconds. -/
def length? : Json → Option Float
  | .number number => some number.toFloat
  | .string text =>
    match Binary64.read? (Text.trim text) with
    | some seconds => some seconds
    | none => some (Duration.parse text).toUInt64.toFloat
  | _ => none

def shape : Shape VideoRecord where
  name := "struct VideoRecord"
  start := ⟨"", "", 0, 0, 0, none, none, none, []⟩
  fields := [
    { Field.make "id" .refused Decoder.string fun value held => { held with id := value } with
      aliases := ["videoId"] },
    Field.make "title" .default Decoder.string fun value held => { held with title := value },
    Field.make "views" .default Decoder.json fun value held => { held with views := counter value },
    Field.make "likes" .default Decoder.json fun value held => { held with likes := counter value },
    Field.make "comments" .default Decoder.json fun value held => { held with comments := counter value },
    { Field.make "ageDays" .default Decoder.float.option fun value held => { held with ageDays := value } with
      aliases := ["days"] },
    Field.make "publishedAt" .default Timestamp.decoder.option fun value held =>
      { held with publishedAt := value },
    { Field.make "durationSeconds" .default Decoder.json fun value held =>
        { held with durationSeconds := length? value } with
      aliases := ["duration"] },
    Field.make "metadata" .default Decoder.members fun value held => { held with metadata := value }]

def decoder : Decoder VideoRecord :=
  shape.decoder

/-- What is not given and an empty map of metadata are left out. -/
def toJson (record : VideoRecord) : Json :=
  .object <|
    [("id", .string record.id), ("title", .string record.title), ("views", .ofUInt64 record.views),
      ("likes", .ofUInt64 record.likes), ("comments", .ofUInt64 record.comments)] ++
    (record.ageDays.map fun value => ("ageDays", Json.ofFloat value)).toList ++
    (record.publishedAt.map fun value => ("publishedAt", Json.string value.render)).toList ++
    (record.durationSeconds.map fun value => ("durationSeconds", Json.ofFloat value)).toList ++
    (if record.metadata.isEmpty then [] else [("metadata", Json.object record.metadata)])

end VideoRecord

end ClipRank
