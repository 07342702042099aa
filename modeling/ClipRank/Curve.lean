import ClipRank.Scalar

/-!
Curves that bring a rate or a magnitude onto the scale from 0 to 100.
-/

namespace ClipRank.Curve

open Scalar

variable {α : Type} [Scalar α]

/-- The nearest score, with 0 for a NaN. -/
def clamp100 (x : α) : α :=
  if isNaN x then zero else clamp zero 100.0 x

/-- One decimal place, a half going away from zero. -/
def round1 (x : α) : α :=
  round (x * 10.0) / 10.0

/-- A logistic curve that takes the midpoint to 50. The slope is relative to the
midpoint, so one steepness suits small and large rates. -/
def sigmoid (value midpoint steepness : α) : α :=
  if !isFinite value || le midpoint zero then zero
  else clamp100 (100.0 / (1.0 + exp (-steepness * (value - midpoint) / midpoint)))

/-- `(log10 (value + 1) - offset) * factor` on the scale, for magnitudes that
span several powers of ten. -/
def logScaled (value offset factor : α) : α :=
  if !isFinite value || le value zero then zero
  else clamp100 ((log10 (value + 1.0) - offset) * factor)

end ClipRank.Curve
