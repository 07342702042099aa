import ClipRank.Scalar

/-!
The raw counters of one clip, and the rates derived from them. Zero views, zero
age and zero duration are cases of their own in every rate.

Likes and comments are added in a word. A program that checks its sums comes to a stop
where they leave it, and nothing is scored: that is what the functions with a question
mark say, here and in scoring. The others are what is computed up to there, and what a
program computes that does not check.
-/

namespace ClipRank

structure RawMetrics (α : Type) where
  views : UInt64
  likes : UInt64
  comments : UInt64
  ageDays : α
  durationSeconds : α
deriving Repr, DecidableEq

namespace RawMetrics

open Scalar

variable {α : Type} [Scalar α]

/-- An age or a duration that is negative or not finite counts as 0. -/
def sanitized (metrics : RawMetrics α) : RawMetrics α :=
  { metrics with
    ageDays := positivePart metrics.ageDays
    durationSeconds := positivePart metrics.durationSeconds }

/-- The length in minutes, at least one, by which the rates divide. -/
def billableMinutes (metrics : RawMetrics α) : α :=
  atLeast 1.0 (metrics.durationSeconds / 60.0)

/-- Likes and comments together, if a word holds their sum. -/
def reactions? (metrics : RawMetrics α) : Option UInt64 :=
  if metrics.likes.toNat + metrics.comments.toNat < UInt64.size then some (metrics.likes + metrics.comments)
  else none

/-- Likes and comments together. Unchecked, the sum starts again from nothing past a word. -/
def reactions (metrics : RawMetrics α) : UInt64 :=
  metrics.likes + metrics.comments

end RawMetrics

structure Rates (α : Type) where
  likeRate : α
  commentRate : α
  engagementRate : α
  viewsPerDay : α
  viewsPerMinute : α
  engagementPerMinute : α
deriving Repr, DecidableEq

namespace Rates

open Scalar

variable {α : Type} [Scalar α]

/-- An amount per thousand views, or 0 without views. -/
def perThousand (amount : α) (views : UInt64) : α :=
  if views = 0 then zero else amount / ofCount views * 1000.0

/-- Likes and comments per thousand views. A comment counts as much as five likes. -/
def weightedEngagement (metrics : RawMetrics α) : α :=
  perThousand (ofCount metrics.likes * 1.0 + ofCount metrics.comments * 5.0) metrics.views

/-- Views per day of age. A clip published today counts all of its views. -/
def dailyViews (metrics : RawMetrics α) : α :=
  if le zero metrics.ageDays && le metrics.ageDays zero then ofCount metrics.views
  else ofCount metrics.views / metrics.ageDays

def ofMetrics (metrics : RawMetrics α) : Rates α where
  likeRate := perThousand (ofCount metrics.likes) metrics.views
  commentRate := perThousand (ofCount metrics.comments) metrics.views
  engagementRate := weightedEngagement metrics
  viewsPerDay := dailyViews metrics
  viewsPerMinute := ofCount metrics.views / metrics.billableMinutes
  engagementPerMinute := ofCount metrics.reactions / metrics.billableMinutes

end Rates

end ClipRank
