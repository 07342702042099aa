import ClipRank.Component
import ClipRank.Json.Shape

/-!
Components, profiles and component values as JSON.
-/

namespace ClipRank

open Json (Decoder Shape Field)

namespace Component

/-- The component `reach` may also be called by its signal, `views`. -/
def decoder : Decoder Component :=
  Decoder.variant [("reach", reach), ("views", reach), ("engagement", engagement),
    ("consistency", consistency), ("community", community), ("efficiency", efficiency)]

end Component

namespace Profile

/-- The profiles may also be called by their generation. -/
def decoder : Decoder Profile :=
  Decoder.variant [("classic", classic), ("v1", classic), ("balanced", balanced), ("v2", balanced)]

end Profile

namespace Components

def shape : Shape (Components Float) where
  name := "struct ScoreComponents"
  start := ⟨0.0, 0.0, 0.0, 0.0, none⟩
  fields := [
    Field.make "reach" .refused Decoder.float fun value held => { held with reach := value },
    Field.make "engagement" .refused Decoder.float fun value held => { held with engagement := value },
    Field.make "consistency" .refused Decoder.float fun value held => { held with consistency := value },
    Field.make "community" .refused Decoder.float fun value held => { held with community := value },
    Field.make "efficiency" .default Decoder.float.option fun value held => { held with efficiency := value }]

def decoder : Decoder (Components Float) :=
  shape.decoder

def toJson (components : Components Float) : Json :=
  .object <|
    [("reach", .ofFloat components.reach), ("engagement", .ofFloat components.engagement),
      ("consistency", .ofFloat components.consistency), ("community", .ofFloat components.community)] ++
    (components.efficiency.map fun value => ("efficiency", Json.ofFloat value)).toList

end Components

end ClipRank
