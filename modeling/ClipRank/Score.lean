import ClipRank.Curve
import ClipRank.Metrics
import ClipRank.Weights

/-!
The sub-scores of a record and their weighted blend. Every sub-score lies on the
scale from 0 to 100 with one decimal, and a signal of exactly 0 scores exactly 0.
-/

namespace ClipRank.Score

open Scalar Curve

variable {α : Type} [Scalar α]

def reach (metrics : RawMetrics α) : α :=
  if metrics.views = 0 then zero else logScaled (ofCount metrics.views) 2.0 20.0

/-- A weighted engagement of 40 per thousand views scores 50. -/
def engagement (rates : Rates α) : α :=
  if le rates.engagementRate zero then zero else sigmoid rates.engagementRate 40.0 0.6

/-- Six tenths for the share of comments among reactions, four tenths for the
comment rate. -/
def communityIndex (metrics : RawMetrics α) (rates : Rates α) : α :=
  ofCount metrics.comments / ofCount metrics.reactions * 100.0 * 0.6 + rates.commentRate * 8.0 * 0.4

def community (metrics : RawMetrics α) (rates : Rates α) : α :=
  if metrics.reactions = 0 then zero
  else
    let index := communityIndex metrics rates
    if le index zero then zero else sigmoid index 15.0 0.6

/-- Flat for the first week, a fifth more by day 90, up to half more after a year. -/
def ageFactor (days : α) : α :=
  if le days 7.0 then 1.0
  else if le days 90.0 then 1.0 + (days - 7.0) / 83.0 * 0.2
  else 1.2 + atMost 0.3 ((days - 90.0) / 275.0)

def classicConsistency (metrics : RawMetrics α) (rates : Rates α) : α :=
  let index := rates.engagementRate * ageFactor metrics.ageDays
  if le index zero then zero else sigmoid index 50.0 0.5

/-- How far a daily rate can be trusted: half on the first day, fully from day 30,
and up to a fifth more for a rate sustained beyond day 90. -/
def ageConfidence (days : α) : α :=
  if le days 30.0 then 0.5 + atLeast zero days / 30.0 * 0.5
  else if le days 90.0 then 1.0
  else 1.0 + atMost 1.0 ((days - 90.0) / 275.0) * 0.2

def balancedConsistency (metrics : RawMetrics α) (rates : Rates α) : α :=
  if le rates.viewsPerDay zero then zero
  else clamp zero 100.0 (logScaled rates.viewsPerDay 1.0 25.0 * ageConfidence metrics.ageDays)

/-- An unknown duration scores 0. -/
def efficiency (metrics : RawMetrics α) (rates : Rates α) : α :=
  if le metrics.durationSeconds zero || metrics.views = 0 then zero
  else logScaled rates.viewsPerMinute 2.0 25.0

def components (profile : Profile) (metrics : RawMetrics α) (rates : Rates α) : Components α where
  reach := round1 (reach metrics)
  engagement := round1 (engagement rates)
  consistency := match profile with
    | .classic => round1 (classicConsistency metrics rates)
    | .balanced => round1 (balancedConsistency metrics rates)
  community := round1 (community metrics rates)
  efficiency := match profile with
    | .classic => some (round1 (efficiency metrics rates))
    | .balanced => none

/-- The components of counters whose likes and comments have a sum. -/
def components? (profile : Profile) (metrics : RawMetrics α) : Option (Components α) :=
  metrics.reactions?.map fun _ => components profile metrics (Rates.ofMetrics metrics)

/-- The weighted mean of the profile's components, to one decimal. Without a
positive weight it is 0. -/
def composite (profile : Profile) (values : Components α) (weights : Weights α) : α :=
  let parts := profile.components
  let total := weights.total parts
  if le total zero then zero
  else
    let weights := weights.sanitized
    let shares := parts.map fun part => (values.get? part).getD zero * (weights.get part / total)
    round1 (clamp zero 100.0 (sum shares))

end ClipRank.Score
