import ClipRank.Weights
import ClipRank.Json.Shape

/-!
Weights as JSON. Any of them may be left out or null and then takes its default,
and the weight of reach may be given as `views`, but not under both names.
-/

namespace ClipRank.Weights

open Json (Decoder Shape Field Mismatch)

/-- The weights that a document gives. -/
structure Entries where
  reach : Option Float
  views : Option Float
  engagement : Option Float
  consistency : Option Float
  community : Option Float
  efficiency : Option Float

namespace Entries

def shape : Shape Entries where
  name := "struct WeightsRepr"
  start := ⟨none, none, none, none, none, none⟩
  fields := [
    Field.make "reach" .default Decoder.float.option fun value held => { held with reach := value },
    Field.make "views" .default Decoder.float.option fun value held => { held with views := value },
    Field.make "engagement" .default Decoder.float.option fun value held => { held with engagement := value },
    Field.make "consistency" .default Decoder.float.option fun value held => { held with consistency := value },
    Field.make "community" .default Decoder.float.option fun value held => { held with community := value },
    Field.make "efficiency" .default Decoder.float.option fun value held => { held with efficiency := value }]

def toWeights (entries : Entries) : Except Mismatch (Weights Float) :=
  let given : Weights Float := default
  match entries.reach, entries.views with
  | some _, some _ => .error (.rule "`views` is an alias of `reach`; send only one of them")
  | reach, views => .ok {
      reach := (reach.or views).getD given.reach
      engagement := entries.engagement.getD given.engagement
      consistency := entries.consistency.getD given.consistency
      community := entries.community.getD given.community
      efficiency := entries.efficiency.getD given.efficiency }

end Entries

def decoder : Decoder (Weights Float) :=
  Entries.shape.decoder.bind Entries.toWeights

def toJson (weights : Weights Float) : Json :=
  .object [("reach", .ofFloat weights.reach), ("engagement", .ofFloat weights.engagement),
    ("consistency", .ofFloat weights.consistency), ("community", .ofFloat weights.community),
    ("efficiency", .ofFloat weights.efficiency)]

end ClipRank.Weights
