import Mathlib.Analysis.Complex.ExponentialBounds
import Mathlib.Analysis.SpecialFunctions.Log.Base
import ClipRank.Proofs.AgeFactors
import ClipRank.Proofs.CheckedSums
import ClipRank.Proofs.ExactNumbers

/-! What more comments do to a score. In exact numbers no component and no blend falls, as
long as a word holds the likes and comments together. Past it nothing is scored, or, where
the sum is not checked, the community is scored by what is left of it in the word. -/

namespace ClipRank.Proofs.CommentCredit
open Scalar Curve Score CheckedSums ExactNumbers

variable {K : Type} [Field K] [LinearOrder K] [IsStrictOrderedRing K] [FloorRing K] {exp log10 : K → K}

/-- The components of counters whose sum is not checked. -/
abbrev unchecked (profile : Profile) (metrics : RawMetrics (Exact exp log10)) : Components (Exact exp log10) :=
  components profile metrics (Rates.ofMetrics metrics)

section Rates
variable {x y : Exact exp log10} {metrics : RawMetrics (Exact exp log10)} {comments : UInt64}

private theorem perThousand_mono (below : x ≤ y) (views : UInt64) : Rates.perThousand x views ≤ Rates.perThousand y views := by
  have size : (0 : Exact exp log10) ≤ ofCount views := ofCount_nonneg views
  unfold Rates.perThousand
  split
  · exact le_rfl
  · gcongr

private theorem weightedEngagement_mono (more : metrics.comments ≤ comments) :
    Rates.weightedEngagement metrics ≤ Rates.weightedEngagement { metrics with comments } := by
  have counts : (ofCount metrics.comments : Exact exp log10) ≤ ofCount comments := ofCount_mono more
  apply perThousand_mono
  dsimp only
  gcongr

private theorem share_mono {likes first second : Exact exp log10} (natural : 0 ≤ likes) (filled : 0 < likes + first)
    (more : first ≤ second) : first / (likes + first) ≤ second / (likes + second) := by
  rw [div_le_div_iff₀ filled (filled.trans_le (by gcongr))]
  have cross : first * likes ≤ second * likes := by gcongr
  linarith

private theorem communityIndex_mono (more : metrics.comments ≤ comments)
    (fits : Fits metrics.likes comments) (filled : metrics.reactions ≠ 0) :
    communityIndex metrics (Rates.ofMetrics metrics) ≤
      communityIndex { metrics with comments } (Rates.ofMetrics { metrics with comments }) := by
  have counts := UInt64.le_iff_toNat_le.mp more
  have first := reactions_fits metrics (fits.fewer more)
  have second := reactions_fits { metrics with comments } fits
  have some : 0 < metrics.reactions.toNat := Nat.pos_of_ne_zero fun none => filled (UInt64.toNat_inj.mp none)
  have size : (0 : Exact exp log10) < metrics.likes.toNat + metrics.comments.toNat := by
    rw [first] at some
    exact_mod_cast some
  have share := share_mono (Nat.cast_nonneg metrics.likes.toNat) size (Nat.cast_le.mpr counts)
  have rate : Rates.perThousand (ofCount metrics.comments : Exact exp log10) metrics.views ≤
      Rates.perThousand (ofCount comments) metrics.views := perThousand_mono (ofCount_mono more) metrics.views
  unfold communityIndex
  change (metrics.comments.toNat : Exact exp log10) / metrics.reactions.toNat * 100.0 * 0.6 + _ ≤
    (comments.toNat : Exact exp log10) / ({ metrics with comments } : RawMetrics (Exact exp log10)).reactions.toNat * 100.0 * 0.6 + _
  rw [first, second]
  push_cast
  exact add_le_add (by gcongr) (mul_le_mul_of_nonneg_right (mul_le_mul_of_nonneg_right rate (by norm_num)) (by norm_num))

end Rates

section Components
variable (positive : ∀ x, 0 < exp x) (rising : StrictMono exp)
variable {metrics : RawMetrics (Exact exp log10)} {comments : UInt64}

include positive rising in
private theorem engagement_mono (more : metrics.comments ≤ comments) :
    engagement (Rates.ofMetrics metrics) ≤ engagement (Rates.ofMetrics { metrics with comments }) :=
  signal_mono positive rising (by norm_num) (by norm_num) (weightedEngagement_mono more)

include positive rising in
private theorem classicConsistency_mono (more : metrics.comments ≤ comments) :
    classicConsistency metrics (Rates.ofMetrics metrics) ≤
      classicConsistency { metrics with comments } (Rates.ofMetrics { metrics with comments }) := by
  have factor := AgeFactors.one_le_ageFactor metrics.ageDays
  have index := mul_le_mul_of_nonneg_right (weightedEngagement_mono more) (zero_le_one.trans factor)
  exact signal_mono positive rising (by norm_num) (by norm_num) index

private theorem community_nonneg (metrics : RawMetrics (Exact exp log10)) (rates : Rates (Exact exp log10)) :
    0 ≤ community metrics rates := by
  unfold community
  dsimp only
  split_ifs
  · rw [zero_eq]
  · rw [zero_eq]
  · exact sigmoid_nonneg _

include positive rising in
private theorem community_mono (more : metrics.comments ≤ comments)
    (fits : Fits metrics.likes comments) :
    community metrics (Rates.ofMetrics metrics) ≤
      community { metrics with comments } (Rates.ofMetrics { metrics with comments }) := by
  by_cases nothing : metrics.reactions = 0
  · have none : community metrics (Rates.ofMetrics metrics) = 0 := by
      unfold community
      rw [if_pos nothing, zero_eq]
    rw [none]
    exact community_nonneg ..
  · have counts := UInt64.le_iff_toNat_le.mp more
    have first := reactions_fits metrics (fits.fewer more)
    have second := reactions_fits { metrics with comments } fits
    have some : metrics.reactions.toNat ≠ 0 := fun none => nothing (UInt64.toNat_inj.mp none)
    have filled : ({ metrics with comments } : RawMetrics (Exact exp log10)).reactions ≠ 0 := by
      intro none
      rw [none] at second
      dsimp only at second
      rw [UInt64.toNat_zero] at second
      omega
    unfold community
    rw [if_neg nothing, if_neg filled]
    exact signal_mono positive rising (by norm_num) (by norm_num) (communityIndex_mono more fits nothing)

include positive rising in
private theorem unsummed_rise (profile : Profile) (more : metrics.comments ≤ comments) :
    NoLower [.reach, .engagement, .consistency, .efficiency] (unchecked profile metrics)
      (unchecked profile { metrics with comments }) := by
  intro part listed
  cases part with
  | reach => exact .some le_rfl
  | engagement => exact .some (round1_mono (engagement_mono positive rising more))
  | consistency =>
    cases profile with
    | classic => exact .some (round1_mono (classicConsistency_mono positive rising more))
    | balanced => exact .some le_rfl
  | community => simp at listed
  | efficiency =>
    cases profile with
    | classic => exact .some le_rfl
    | balanced => exact .none

include positive rising in
private theorem all_rise (profile : Profile) (more : metrics.comments ≤ comments) (fits : Fits metrics.likes comments) :
    NoLower Component.all (unchecked profile metrics) (unchecked profile { metrics with comments }) := by
  intro part listed
  by_cases same : part = .community
  · rw [same]
    exact .some (round1_mono (community_mono positive rising more fits))
  · apply unsummed_rise positive rising profile more part
    cases part <;> first | exact absurd rfl same | decide

include positive rising in
/-- Where counters with more comments can be scored, those with fewer can, and no component
and no blend is lower. Past the word nothing is scored. Where sums are not checked, no
component but the community is lower there either. -/
theorem more_comments_no_lower (profile : Profile) (weights : Weights (Exact exp log10))
    (metrics : RawMetrics (Exact exp log10)) (more : metrics.comments ≤ comments) :
    let grown : RawMetrics (Exact exp log10) := { metrics with comments }
    (∀ higher, components? profile grown = some higher → ∃ lower, components? profile metrics = some lower ∧
      NoLower Component.all lower higher ∧ composite profile lower weights ≤ composite profile higher weights) ∧
    (components? profile grown = none ↔ UInt64.size ≤ metrics.likes.toNat + comments.toNat) ∧
    (∀ id title, ScoredRecord.ofMetrics? id title grown profile weights = none ↔
      UInt64.size ≤ metrics.likes.toNat + comments.toNat) ∧
    NoLower [.reach, .engagement, .consistency, .efficiency] (unchecked profile metrics) (unchecked profile grown) := by
  intro grown
  have long : ¬ Fits grown.likes grown.comments ↔ UInt64.size ≤ metrics.likes.toNat + comments.toNat := Nat.not_lt
  refine ⟨?_, ?_, ?_, unsummed_rise positive rising profile more⟩
  · intro higher scored
    by_cases fits : Fits grown.likes grown.comments
    · rw [components?_fits fits] at scored
      obtain rfl := Option.some.inj scored
      have rises : NoLower Component.all (unchecked profile metrics) (unchecked profile grown) :=
        all_rise positive rising profile more fits
      refine ⟨_, components?_fits (fits.fewer more), rises, ?_⟩
      exact composite_mono (fun part _ => rises part (by cases part <;> decide)) weights
    · rw [components?_long fits] at scored
      cases scored
  · rw [← long, components?_eq_none_iff]
  · intro id title
    rw [← long, ofMetrics?_eq_none_iff]

end Components

section Reals

/-- Real numbers with the functions that the curves name. -/
abbrev Analytic : Type := Exact Real.exp (Real.logb 10)

theorem more_comments_on_a_clip :
    (5 : UInt64) ≤ 50 ∧ ∃ lower higher,
      components? .classic (⟨1000, 10, 5, 30.0, 60.0⟩ : RawMetrics Analytic) = some lower ∧
      components? .classic (⟨1000, 10, 50, 30.0, 60.0⟩ : RawMetrics Analytic) = some higher ∧
      composite .classic lower default ≤ composite .classic higher default := by
  have more : (5 : UInt64) ≤ 50 := by decide
  have fits : Fits 10 50 := by decide
  have rises := more_comments_no_lower Real.exp_pos Real.exp_strictMono .classic default
    (⟨1000, 10, 5, 30.0, 60.0⟩ : RawMetrics Analytic) more
  obtain ⟨lower, scored, _, blend⟩ := rises.1 _ (components?_fits fits)
  exact ⟨more, lower, _, scored, components?_fits fits, blend⟩

private theorem sigmoid_low {index : Analytic} (positive : 0 < index) : 25 ≤ sigmoid index 15.0 0.6 := by
  have exponent : -(0.6 : Analytic) * (index - 15.0) / 15.0 ≤ 1 := by
    have low : -(0.6 : Analytic) * (index - 15.0) / 15.0 = 0.6 - index / 25 := by
      norm_num
      ring
    have small : (0.6 : Analytic) ≤ 1 := by norm_num
    have rest : 0 < index / 25 := by positivity
    rw [low]
    linarith
  have size : (0 : Analytic) < Scalar.exp (-0.6 * (index - 15.0) / 15.0) := Real.exp_pos _
  have power : Scalar.exp (-(0.6 : Analytic) * (index - 15.0) / 15.0) ≤ 3 :=
    (Real.exp_le_exp.mpr exponent).trans Real.exp_one_lt_three.le
  rw [sigmoid_eq (by norm_num)]
  refine le_max_of_le_right (le_min (by norm_num) ?_)
  rw [le_div_iff₀ (by linarith)]
  linarith

private theorem index_pos {metrics : RawMetrics Analytic} (unseen : metrics.views = 0) (some : 0 < metrics.comments.toNat)
    (filled : 0 < metrics.reactions.toNat) : 0 < communityIndex metrics (Rates.ofMetrics metrics) := by
  have rate : (Rates.ofMetrics metrics).commentRate = 0 := (if_pos unseen).trans zero_eq
  have share : (0 : Analytic) < ofCount metrics.comments / ofCount metrics.reactions :=
    div_pos (Nat.cast_pos.mpr some) (Nat.cast_pos.mpr filled)
  unfold communityIndex
  rw [rate]
  norm_num
  exact share

/-- Where the likes leave room in the word for one comment, a second one takes all scores
away, and where the sum is not checked the whole community. -/
theorem second_comment_lost :
    (components? .balanced (⟨0, 18446744073709551614, 1, 0.0, 0.0⟩ : RawMetrics Analytic)).isSome = true ∧
      components? .balanced (⟨0, 18446744073709551614, 2, 0.0, 0.0⟩ : RawMetrics Analytic) = none ∧
      (unchecked .balanced (⟨0, 18446744073709551614, 2, 0.0, 0.0⟩ : RawMetrics Analytic)).community <
        (unchecked .balanced (⟨0, 18446744073709551614, 1, 0.0, 0.0⟩ : RawMetrics Analytic)).community := by
  have fits : Fits 18446744073709551614 1 := by decide
  have long : ¬ Fits 18446744073709551614 2 := by decide
  refine ⟨Option.isSome_iff_exists.mpr ⟨_, components?_fits fits⟩, components?_long long, ?_⟩
  obtain ⟨lost, isLost⟩ : ∃ lost : RawMetrics Analytic, lost = ⟨0, 18446744073709551614, 2, 0.0, 0.0⟩ := ⟨_, rfl⟩
  obtain ⟨kept, isKept⟩ : ∃ kept : RawMetrics Analytic, kept = ⟨0, 18446744073709551614, 1, 0.0, 0.0⟩ := ⟨_, rfl⟩
  rw [← isLost, ← isKept]
  have nothing : community lost (Rates.ofMetrics lost) = 0 := by
    have none : lost.reactions = 0 := by
      rw [isLost]
      decide
    unfold community
    rw [if_pos none, zero_eq]
  have something : 25 ≤ community kept (Rates.ofMetrics kept) := by
    have some : kept.reactions ≠ 0 := by
      rw [isKept]
      decide
    have index : 0 < communityIndex kept (Rates.ofMetrics kept) := by
      rw [isKept]
      exact index_pos rfl (by decide) (by decide)
    unfold community
    rw [if_neg some, zero_eq]
    dsimp only
    rw [if_neg (mt le_iff.mp (not_le.mpr index))]
    exact sigmoid_low index
  have whole : round1 (25 : Analytic) = 25 := round1_natCast 25
  have none : round1 (0 : Analytic) = 0 := by
    have same : round1 ((0 : Nat) : Analytic) = (0 : Nat) := round1_natCast 0
    rwa [Nat.cast_zero] at same
  calc (unchecked .balanced lost).community = round1 0 := congrArg round1 nothing
    _ = 0 := none
    _ < 25 := by norm_num
    _ = round1 25 := whole.symm
    _ ≤ (unchecked .balanced kept).community := round1_mono something

end Reals

end ClipRank.Proofs.CommentCredit
