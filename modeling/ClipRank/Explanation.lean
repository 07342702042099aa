import ClipRank.ScoredRecord.Json
import ClipRank.Binary64.Fixed

/-!
A composite score broken down into its weighted parts.
-/

namespace ClipRank

structure Contribution (α : Type) where
  component : Component
  value : α
  /-- The share of the weight, in percent. -/
  weightPercent : UInt32
  contribution : α

structure Explanation (α : Type) where
  compositeScore : α
  profile : Profile
  grade : Grade
  /-- The parts, the largest contribution first. -/
  components : List (Contribution α)

namespace Explanation

open Scalar

variable {α : Type} [Scalar α]

/-- The contribution of one component of a record. -/
def contributionOf (record : ScoredRecord α) (weights : Weights α) (component : Component) : Contribution α :=
  let parts := record.profile.components
  let total := weights.total parts
  let weights := weights.sanitized
  let value := (record.components.get? component).getD zero
  let share := if lt zero total then weights.get component / total else zero
  { component, value
    weightPercent := weights.percent component parts
    contribution := Curve.round1 (value * share) }

def ofRecord (record : ScoredRecord α) (weights : Weights α) : Explanation α :=
  let parts := record.profile.components.map (contributionOf record weights)
  let compositeScore := Score.composite record.profile record.components weights
  { compositeScore
    profile := record.profile
    grade := Grade.ofScore compositeScore
    components := parts.mergeSort fun first second =>
      (order second.contribution first.contribution).isLE }

theorem components_perm (record : ScoredRecord α) (weights : Weights α) :
    (ofRecord record weights).components.Perm (record.profile.components.map (contributionOf record weights)) :=
  List.mergeSort_perm _ _

/-- The first components that contribute, two at most. -/
def drivers (explanation : Explanation α) : List (Contribution α) :=
  (explanation.components.filter fun part => lt zero part.contribution).take 2

/-- The score and the grade in words, with the components that drive them. -/
def summary (explanation : Explanation Float) : String :=
  let drivers := explanation.drivers.map fun part =>
    part.component.name ++ " " ++ Binary64.fixed 1 part.value
  let heading := Binary64.fixed 1 explanation.compositeScore ++ " (" ++ explanation.grade.label ++ "): "
  if drivers.isEmpty then heading ++ "no component contributes"
  else heading ++ "driven by " ++ ", ".intercalate drivers

end Explanation

namespace Contribution

def toJson (part : Contribution Float) : Json :=
  .object [("component", .string part.component.name), ("value", .ofFloat part.value),
    ("weightPct", .ofNat part.weightPercent.toNat), ("contribution", .ofFloat part.contribution),
    ("description", .string part.component.description)]

end Contribution

namespace Explanation

def toJson (explanation : Explanation Float) : Json :=
  .object [("compositeScore", .ofFloat explanation.compositeScore),
    ("profile", .string explanation.profile.name), ("grade", .string explanation.grade.name),
    ("components", .array (explanation.components.map Contribution.toJson)),
    ("humanReadable", .string explanation.summary)]

end Explanation

end ClipRank
