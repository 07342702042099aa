import Mathlib.Data.Rat.Floor
import ClipRank.Proofs.ExactNumbers

/-! What age counts for, in exact numbers. Both factors are a start and two ramps over
bands of days, the second of them after the first. A ramp never falls and stays at its
height once it is reached, so the bands of days meet and an older record counts no less. -/

namespace ClipRank.Proofs.AgeFactors
open Scalar Score ExactNumbers

section Ramps
variable {K : Type} [Field K] [LinearOrder K] {exp log10 : K → K} {height x : Exact exp log10}

/-- A line from 0 up to a height, and level on both sides. -/
def ramp (height x : Exact exp log10) : Exact exp log10 :=
  max 0 (min height x)

theorem ramp_mono (height : Exact exp log10) : Monotone (ramp height) := by
  intro x y below
  exact max_le_max le_rfl (min_le_min le_rfl below)

theorem ramp_nonneg (height x : Exact exp log10) : 0 ≤ ramp height x :=
  le_max_left _ _

theorem ramp_le (natural : 0 ≤ height) (x : Exact exp log10) : ramp height x ≤ height :=
  max_le natural (min_le_left _ _)

private theorem ramp_before (before : x ≤ 0) : ramp height x = 0 :=
  max_eq_left ((min_le_right _ _).trans before)

private theorem ramp_within (started : 0 ≤ x) (below : x ≤ height) : ramp height x = x := by
  rw [ramp, min_eq_right below, max_eq_right started]

private theorem ramp_after (natural : 0 ≤ height) (reached : height ≤ x) : ramp height x = height := by
  rw [ramp, min_eq_left reached, max_eq_right natural]

private theorem atMost_ramp [FloorRing K] (natural : 0 ≤ height) (started : 0 ≤ x) : atMost height x = ramp height x := by
  unfold atMost
  rcases lt_or_ge x height with below | reached
  · rw [if_pos (lt_iff.mpr below), ramp_within started below.le]
  · rw [if_neg (mt lt_iff.mp (not_lt.mpr reached)), ramp_after natural reached]

end Ramps

section Factors
variable {K : Type} [Field K] [LinearOrder K] [IsStrictOrderedRing K] [FloorRing K] {exp log10 : K → K}

/-- A fifth from day 7 to day 90, and three tenths more from there. -/
theorem ageFactor_eq (days : Exact exp log10) :
    ageFactor days = 1 + ramp 1 ((days - 7) / 83) / 5 + ramp (3 / 10) ((days - 90) / 275) := by
  simp only [ageFactor, le_iff]
  norm_num only
  split_ifs with young grown
  · rw [ramp_before (by linarith), ramp_before (by linarith)]
    norm_num
  · rw [ramp_within (by linarith) (by linarith), ramp_before (by linarith)]
    linarith
  · rw [ramp_after (by norm_num) (by linarith), atMost_ramp (by norm_num) (by linarith)]
    norm_num

/-- A half up to day 30, and a fifth more from day 90. -/
theorem ageConfidence_eq (days : Exact exp log10) :
    ageConfidence days = 1 / 2 + ramp 1 (days / 30) / 2 + ramp 1 ((days - 90) / 275) / 5 := by
  simp only [ageConfidence, le_iff]
  norm_num only
  split_ifs with young grown
  · rw [ramp_before (by linarith : (days - 90) / 275 ≤ 0)]
    unfold atLeast
    rw [zero_eq]
    split_ifs with started
    · rw [lt_iff] at started
      rw [ramp_within (by linarith) (by linarith)]
      linarith
    · rw [lt_iff, not_lt] at started
      rw [ramp_before (by linarith)]
      norm_num
  · rw [ramp_after (by norm_num) (by linarith), ramp_before (by linarith)]
    norm_num
  · rw [ramp_after (by norm_num) (by linarith), atMost_ramp (by norm_num) (by linarith)]
    linarith

theorem one_le_ageFactor (days : Exact exp log10) : 1 ≤ ageFactor days := by
  have first := ramp_nonneg 1 ((days - 7) / 83)
  have second := ramp_nonneg (3 / 10) ((days - 90) / 275)
  rw [ageFactor_eq]
  linarith

/-- No age counts less than a younger one, and neither factor leaves its interval. -/
theorem ages_never_fall :
    Monotone (ageFactor (α := Exact exp log10)) ∧ Monotone (ageConfidence (α := Exact exp log10)) ∧
      ∀ days : Exact exp log10, (1 ≤ ageFactor days ∧ ageFactor days ≤ 3 / 2) ∧
        (1 / 2 ≤ ageConfidence days ∧ ageConfidence days ≤ 6 / 5) := by
  refine ⟨?_, ?_, ?_⟩
  · intro days later older
    have first : ramp 1 ((days - 7) / 83) ≤ ramp 1 ((later - 7) / 83) := ramp_mono 1 (by gcongr)
    have second : ramp (3 / 10) ((days - 90) / 275) ≤ ramp (3 / 10) ((later - 90) / 275) := ramp_mono _ (by gcongr)
    rw [ageFactor_eq, ageFactor_eq]
    gcongr
  · intro days later older
    have first : ramp 1 (days / 30) ≤ ramp 1 (later / 30) := ramp_mono 1 (by gcongr)
    have second : ramp 1 ((days - 90) / 275) ≤ ramp 1 ((later - 90) / 275) := ramp_mono 1 (by gcongr)
    rw [ageConfidence_eq, ageConfidence_eq]
    gcongr
  · intro days
    have one : (0 : Exact exp log10) ≤ 1 := zero_le_one
    have tenths : (0 : Exact exp log10) ≤ 3 / 10 := by norm_num
    refine ⟨⟨one_le_ageFactor days, ?_⟩, ?_, ?_⟩
    · have first := ramp_le one ((days - 7) / 83)
      have second := ramp_le tenths ((days - 90) / 275)
      rw [ageFactor_eq]
      linarith
    · have first := ramp_nonneg 1 (days / 30)
      have second := ramp_nonneg 1 ((days - 90) / 275)
      rw [ageConfidence_eq]
      linarith
    · have first := ramp_le one (days / 30)
      have second := ramp_le one ((days - 90) / 275)
      rw [ageConfidence_eq]
      linarith

/-- Over the ends of three bands, and ten years on. -/
theorem band_ends_climbed :
    ageFactor (7 : Exact (K := ℚ) id id) ≤ ageFactor 8 ∧ ageFactor (90 : Exact (K := ℚ) id id) ≤ ageFactor 91 ∧
      ageConfidence (30 : Exact (K := ℚ) id id) ≤ ageConfidence 31 ∧
      ageFactor (3650 : Exact (K := ℚ) id id) ≤ 3 / 2 := by
  obtain ⟨factor, confidence, bounded⟩ : Monotone (ageFactor (α := Exact (K := ℚ) id id)) ∧ _ ∧ _ := ages_never_fall
  refine ⟨factor ?_, factor ?_, confidence ?_, (bounded 3650).1.2⟩
  all_goals norm_num

end Factors

end ClipRank.Proofs.AgeFactors
