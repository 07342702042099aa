import ClipRank.Scalar
import ClipRank.Component

/-!
The weights by which components are blended. Only their proportions matter, and
a weight that is not positive and finite counts as 0 wherever it is used.
-/

namespace ClipRank

structure Weights (α : Type) where
  reach : α
  engagement : α
  consistency : α
  community : α
  efficiency : α
deriving Repr, DecidableEq

namespace Weights

open Scalar

variable {α : Type}

def get (weights : Weights α) : Component → α
  | .reach => weights.reach
  | .engagement => weights.engagement
  | .consistency => weights.consistency
  | .community => weights.community
  | .efficiency => weights.efficiency

def map (f : α → α) (weights : Weights α) : Weights α where
  reach := f weights.reach
  engagement := f weights.engagement
  consistency := f weights.consistency
  community := f weights.community
  efficiency := f weights.efficiency

variable [Scalar α]

instance : Inhabited (Weights α) where
  default := { reach := 35.0, engagement := 20.0, consistency := 15.0, community := 15.0, efficiency := 15.0 }

def sanitized (weights : Weights α) : Weights α :=
  weights.map positivePart

theorem get_sanitized (weights : Weights α) (component : Component) :
    weights.sanitized.get component = positivePart (weights.get component) := by
  cases component <;> rfl

theorem sanitized_idem (weights : Weights α) : weights.sanitized.sanitized = weights.sanitized := by
  simp only [sanitized, map, positivePart_idem]

/-- The weights with one of them replaced. -/
def set (weights : Weights α) (component : Component) (weight : α) : Weights α :=
  let weight := positivePart weight
  match component with
  | .reach => { weights with reach := weight }
  | .engagement => { weights with engagement := weight }
  | .consistency => { weights with consistency := weight }
  | .community => { weights with community := weight }
  | .efficiency => { weights with efficiency := weight }

/-- Every weight multiplied by one factor. -/
def scaled (weights : Weights α) (factor : α) : Weights α :=
  (weights.map (· * factor)).sanitized

/-- The sum of the weights of some components. -/
def total (weights : Weights α) (components : List Component) : α :=
  sum (components.map fun component => positivePart (weights.get component))

/-- The share of a component among some components, as a rounded percentage. -/
def percent (weights : Weights α) (component : Component) (components : List Component) : UInt32 :=
  let total := weights.total components
  if le total zero || !components.contains component then 0
  else toWord (round (positivePart (weights.get component) / total * 100.0))

end Weights

end ClipRank
