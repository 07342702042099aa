import ClipRank.Files
import ClipRank.Weights.Json

/-!
Weights from a file that may change while they are in use. The file is read again
when its modification time differs from the one last seen, and weights that
cannot be read leave those in use as they are.
-/

namespace ClipRank

open Json (Decoder)

/-- Why a file gives no weights. -/
inductive WeightsFault where
  | file (fault : FileFault)
  | content (fault : Json.Fault)

/-- The weights in a text. -/
def Weights.ofText (text : String) : Except Json.Fault (Weights Float) :=
  (Decoder.ofText Weights.decoder text).map Weights.sanitized

/-- A file at one moment. -/
structure Snapshot where
  modified : Int
  content : Except FileFault String

namespace Snapshot

def weights (snapshot : Snapshot) : Except WeightsFault (Weights Float) :=
  match snapshot.content with
  | .error fault => .error (.file fault)
  | .ok text => (Weights.ofText text).mapError .content

end Snapshot

/-- The weights in a file that may be absent. -/
def Weights.ofFile (file : Option Snapshot) : Except WeightsFault (Weights Float) :=
  match file with
  | none => .error (.file .notFound)
  | some snapshot => snapshot.weights

/-- The weights in use, and the modification time last seen. -/
structure HotWeights where
  current : Weights Float
  modified : Option Int

namespace HotWeights

/-- Before the file was looked at. -/
def start (fallback : Weights Float) : HotWeights :=
  ⟨fallback.sanitized, none⟩

/-- Looks at the file. Its modification time is kept even if it gives no weights, so
that a broken file is read only once. -/
def refresh (hot : HotWeights) : Option Snapshot → HotWeights
  | none => hot
  | some snapshot =>
    if hot.modified = some snapshot.modified then hot
    else
      match snapshot.weights with
      | .ok weights => ⟨weights, some snapshot.modified⟩
      | .error _ => { hot with modified := some snapshot.modified }

end HotWeights

/-- Where the weights are looked for by default. -/
def defaultWeightsPath : String := "config/weights.json"

end ClipRank
