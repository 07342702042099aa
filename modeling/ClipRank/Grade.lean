import ClipRank.Scalar

/-!
The bands of a composite score.
-/

namespace ClipRank

inductive Grade where
  | excellent
  | veryGood
  | good
  | fair
  | low
deriving Repr, DecidableEq

namespace Grade

open Scalar

/-- The band of a score. A NaN reaches no band but the last. -/
def ofScore {α : Type} [Scalar α] (score : α) : Grade :=
  if le 70.0 score then excellent
  else if le 55.0 score then veryGood
  else if le 40.0 score then good
  else if le 25.0 score then fair
  else low

def all : List Grade := [excellent, veryGood, good, fair, low]

def name : Grade → String
  | excellent => "excellent"
  | veryGood => "very_good"
  | good => "good"
  | fair => "fair"
  | low => "low"

def label : Grade → String
  | excellent => "Excellent"
  | veryGood => "Very Good"
  | good => "Good"
  | fair => "Fair"
  | low => "Low"

def description : Grade → String
  | excellent => "Exceptional performance - high engagement and reach"
  | veryGood => "Above average - good audience engagement"
  | good => "Adequate performance - within expectations"
  | fair => "Below average - engagement could improve"
  | low => "Needs attention - low engagement"

end Grade

end ClipRank
