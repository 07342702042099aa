import Mathlib.Algebra.Order.BigOperators.Group.List
import Mathlib.Algebra.Order.Field.Basic
import Mathlib.Algebra.Order.Floor.Ring
import Mathlib.Tactic.GCongr
import Mathlib.Tactic.Linarith
import Mathlib.Tactic.NormNum
import Mathlib.Tactic.Positivity
import ClipRank.Score

/-! Scores in exact numbers, which are those of an ordered field. Only the exponential
and the logarithm of the curves are left open. Every step from a rate to a score keeps
the order, provided the exponential is positive and rises. -/

namespace ClipRank.Proofs.ExactNumbers
open Scalar Curve

/-- The numbers of a field, with the functions that stand for the exponential and for
the logarithm. -/
def Exact {K : Type} (_exp _log10 : K → K) : Type := K

/-- Sums of close terms are as far apart as the terms can be together. -/
theorem sums_close {ι K : Type} [Field K] [LinearOrder K] [IsStrictOrderedRing K] {parts : List ι} {f g : ι → K} {error : K}
    (near : ∀ part ∈ parts, |f part - g part| ≤ error) :
    |(parts.map f).sum - (parts.map g).sum| ≤ parts.length * error := by
  induction parts with
  | nil => simp
  | cons part rest ih =>
    have head := near part List.mem_cons_self
    have tail := ih fun other member => near other (List.mem_cons_of_mem _ member)
    simp only [List.map_cons, List.sum_cons, List.length_cons, Nat.cast_add, Nat.cast_one]
    rw [abs_le] at head tail ⊢
    constructor <;> linarith

section Arithmetic
variable {K : Type} [Field K] [LinearOrder K] [FloorRing K] {exp log10 : K → K}

instance : Field (Exact exp log10) := inferInstanceAs (Field K)

instance : LinearOrder (Exact exp log10) := inferInstanceAs (LinearOrder K)

instance : FloorRing (Exact exp log10) := inferInstanceAs (FloorRing K)

instance [IsStrictOrderedRing K] : IsStrictOrderedRing (Exact exp log10) := inferInstanceAs (IsStrictOrderedRing K)

instance : Scalar (Exact exp log10) where
  ofCount word := (word.toNat : Exact exp log10)
  lt x y := decide (x < y)
  le x y := decide (x ≤ y)
  isFinite _ := true
  isNaN _ := false
  exp := exp
  log10 := log10
  round x := if 0 ≤ x then (⌊x + 1 / 2⌋ : Exact exp log10) else (⌈x - 1 / 2⌉ : Exact exp log10)
  toWord x := UInt32.ofNatClamp ⌊x⌋.toNat
  order := compare

variable {x y low high midpoint steepness : Exact exp log10}

@[simp]
theorem zero_eq : (zero : Exact exp log10) = 0 := by
  change (0.0 : Exact exp log10) = 0
  norm_num

@[simp]
theorem lt_iff : lt x y = true ↔ x < y :=
  decide_eq_true_iff

@[simp]
theorem le_iff : le x y = true ↔ x ≤ y :=
  decide_eq_true_iff

@[simp]
theorem isFinite_eq (x : Exact exp log10) : isFinite x = true :=
  rfl

theorem positivePart_eq (x : Exact exp log10) : positivePart x = max 0 x := by
  unfold positivePart
  rw [isFinite_eq, Bool.true_and, zero_eq]
  rcases lt_or_ge 0 x with positive | negative
  · rw [if_pos (lt_iff.mpr positive), max_eq_right positive.le]
  · rw [if_neg (mt lt_iff.mp (not_lt.mpr negative)), max_eq_left negative]

theorem sum_eq (terms : List (Exact exp log10)) : sum terms = terms.sum := by
  have start : (-zero : Exact exp log10) = 0 := by
    change -(0.0 : Exact exp log10) = 0
    norm_num
  unfold sum
  rw [start, List.sum_eq_foldl]

private theorem round_eq (x : Exact exp log10) :
    Scalar.round x = if 0 ≤ x then (⌊x + 1 / 2⌋ : Exact exp log10) else (⌈x - 1 / 2⌉ : Exact exp log10) :=
  rfl

theorem clamp_eq (ordered : low ≤ high) : clamp low high x = max low (min high x) := by
  unfold clamp
  rcases lt_or_ge x low with below | above
  · rw [if_pos (lt_iff.mpr below), max_eq_left ((min_le_right _ _).trans below.le)]
  · rw [if_neg (mt lt_iff.mp (not_lt.mpr above)), max_eq_right (le_min ordered above)]
    rcases lt_or_ge high x with beyond | within
    · rw [if_pos (lt_iff.mpr beyond), min_eq_left beyond.le]
    · rw [if_neg (mt lt_iff.mp (not_lt.mpr within)), min_eq_right within]

/-- A cutoff at zero keeps the order of a curve that is nowhere negative. -/
theorem cutoff_mono {f : Exact exp log10 → Exact exp log10} (natural : ∀ x, 0 ≤ f x) (rises : ∀ x y, x ≤ y → f x ≤ f y)
    (below : x ≤ y) : (if le x zero then zero else f x) ≤ if le y zero then zero else f y := by
  simp only [le_iff, zero_eq]
  split_ifs with first second second
  · exact le_rfl
  · exact natural y
  · exact absurd (below.trans second) first
  · exact rises x y below

private theorem weight_nonneg (weights : Weights (Exact exp log10)) (part : Component) :
    0 ≤ weights.sanitized.get part := by
  rw [Weights.get_sanitized, positivePart_eq]
  exact le_max_left _ _

/-- Both scores have the same ones of these components, and none is lower in the second
one. -/
def NoLower (parts : List Component) (first second : Components (Exact exp log10)) : Prop :=
  ∀ part ∈ parts, Option.Rel (· ≤ ·) (first.get? part) (second.get? part)

private theorem share_mono {parts : List Component} {first second : Components (Exact exp log10)}
    (rises : NoLower parts first second) {part : Component} (listed : part ∈ parts) :
    (first.get? part).getD zero ≤ (second.get? part).getD zero := by
  have related := rises part listed
  generalize first.get? part = value at related
  generalize second.get? part = other at related
  cases related with
  | some below => exact below
  | none => exact le_rfl

end Arithmetic

section Order
variable {K : Type} [Field K] [LinearOrder K] [IsStrictOrderedRing K] [FloorRing K] {exp log10 : K → K}
variable {x y low high midpoint steepness : Exact exp log10}

theorem ofCount_nonneg (count : UInt64) : (0 : Exact exp log10) ≤ ofCount count :=
  Nat.cast_nonneg count.toNat

theorem ofCount_mono {count other : UInt64} (below : count ≤ other) :
    (ofCount count : Exact exp log10) ≤ ofCount other :=
  Nat.cast_le.mpr (UInt64.le_iff_toNat_le.mp below)

theorem round_mono (below : x ≤ y) : Scalar.round x ≤ Scalar.round y := by
  rw [round_eq, round_eq]
  rcases lt_or_ge y 0 with negative | natural
  · rw [if_neg (not_le.mpr (below.trans_lt negative)), if_neg (not_le.mpr negative)]
    gcongr
  · rw [if_pos natural]
    rcases lt_or_ge x 0 with opposite | same
    · rw [if_neg (not_le.mpr opposite)]
      have low : ⌈x - 1 / 2⌉ ≤ 0 := Int.ceil_nonpos.mpr (by linarith)
      have high : 0 ≤ ⌊y + 1 / 2⌋ := Int.floor_nonneg.mpr (by linarith)
      exact_mod_cast low.trans high
    · rw [if_pos same]
      gcongr

theorem round1_mono (below : x ≤ y) : round1 x ≤ round1 y := by
  have scaled : x * 10.0 ≤ y * 10.0 := by gcongr
  have rounded := round_mono scaled
  unfold round1
  gcongr

theorem round_natCast (count : Nat) : Scalar.round (count : Exact exp log10) = count := by
  have half : ⌊(1 / 2 : Exact exp log10)⌋ = 0 := Int.floor_eq_zero_iff.mpr ⟨by norm_num, by norm_num⟩
  rw [round_eq, if_pos (Nat.cast_nonneg _), Int.floor_natCast_add, half, add_zero, Int.cast_natCast]

theorem round1_natCast (count : Nat) : round1 (count : Exact exp log10) = count := by
  have scaled : (count : Exact exp log10) * 10.0 = ((count * 10 : Nat) : Exact exp log10) := by
    push_cast
    norm_num
  unfold round1
  rw [scaled, round_natCast]
  push_cast
  norm_num

theorem round_error (x : Exact exp log10) : |Scalar.round x - x| ≤ 1 / 2 := by
  rw [round_eq, abs_le]
  split
  · have low := Int.lt_floor_add_one (x + 1 / 2)
    have high := Int.floor_le (x + 1 / 2)
    constructor <;> linarith
  · have low := Int.le_ceil (x - 1 / 2)
    have high := Int.ceil_lt_add_one (x - 1 / 2)
    constructor <;> linarith

theorem round1_error (x : Exact exp log10) : |round1 x - x| ≤ 1 / 20 := by
  have ten : (10.0 : Exact exp log10) = 10 := by norm_num
  have tenfold := round_error (x * 10)
  unfold round1
  rw [ten]
  rw [abs_le] at tenfold ⊢
  constructor <;> linarith

theorem round_natural (natural : 0 ≤ x) : ∃ count : Nat, Scalar.round x = (count : Exact exp log10) := by
  have low : 0 ≤ ⌊x + 1 / 2⌋ := Int.floor_nonneg.mpr (by linarith)
  refine ⟨⌊x + 1 / 2⌋.toNat, ?_⟩
  rw [round_eq, if_pos natural]
  exact_mod_cast (Int.toNat_of_nonneg low).symm

theorem toWord_natCast {count : Nat} (short : count < UInt32.size) :
    (toWord (count : Exact exp log10)).toNat = count := by
  change (UInt32.ofNatClamp ⌊(count : Exact exp log10)⌋.toNat).toNat = count
  rw [Int.floor_natCast, Int.toNat_natCast, UInt32.toNat_ofNatClamp_of_lt short]

/-- A percentage keeps its rounded value in a word. -/
theorem toWord_round (natural : 0 ≤ x) (most : x ≤ 100) :
    ((toWord (Scalar.round x)).toNat : Exact exp log10) = Scalar.round x := by
  obtain ⟨count, rounded⟩ := round_natural natural
  have hundred : Scalar.round ((100 : Nat) : Exact exp log10) = (100 : Nat) := round_natCast 100
  have high := round_mono most
  rw [rounded, ← Nat.cast_ofNat, hundred] at high
  have short : count ≤ 100 := Nat.cast_le.mp high
  rw [rounded, toWord_natCast (short.trans_lt (by decide))]

theorem clamp_scale (x : Exact exp log10) : clamp zero 100.0 x = max 0 (min 100 x) := by
  have whole : (100.0 : Exact exp log10) = 100 := by norm_num
  rw [zero_eq, whole, clamp_eq (by norm_num)]

theorem clamp100_eq (x : Exact exp log10) : clamp100 x = max 0 (min 100 x) :=
  clamp_scale x

theorem sigmoid_eq (filled : 0 < midpoint) (x : Exact exp log10) : sigmoid x midpoint steepness =
    max 0 (min 100 (100 / (1 + Scalar.exp (-steepness * (x - midpoint) / midpoint)))) := by
  have hundred : (100.0 : Exact exp log10) = 100 := by norm_num
  have one : (1.0 : Exact exp log10) = 1 := by norm_num
  unfold sigmoid
  rw [isFinite_eq, zero_eq, Bool.not_true, Bool.false_or, if_neg (mt le_iff.mp (not_le.mpr filled)), clamp100_eq,
    hundred, one]

theorem sigmoid_nonneg (x : Exact exp log10) : 0 ≤ sigmoid x midpoint steepness := by
  unfold sigmoid
  split
  · rw [zero_eq]
  · rw [clamp100_eq]
    exact le_max_left _ _

theorem sigmoid_mono (positive : ∀ x, 0 < exp x) (rising : StrictMono exp) (filled : 0 < midpoint) (natural : 0 ≤ steepness)
    (below : x ≤ y) : sigmoid x midpoint steepness ≤ sigmoid y midpoint steepness := by
  have exponents : -steepness * (y - midpoint) / midpoint ≤ -steepness * (x - midpoint) / midpoint := by
    rw [neg_mul, neg_mul]
    gcongr
  have powers : Scalar.exp (-steepness * (y - midpoint) / midpoint) ≤ Scalar.exp (-steepness * (x - midpoint) / midpoint) :=
    rising.monotone exponents
  have size : 0 < Scalar.exp (-steepness * (y - midpoint) / midpoint) := positive _
  rw [sigmoid_eq filled, sigmoid_eq filled]
  gcongr

/-- A curve with a cutoff at zero keeps the order of the signal. -/
theorem signal_mono (positive : ∀ x, 0 < exp x) (rising : StrictMono exp) (filled : 0 < midpoint) (natural : 0 ≤ steepness)
    (below : x ≤ y) :
    (if le x zero then zero else sigmoid x midpoint steepness) ≤ if le y zero then zero else sigmoid y midpoint steepness :=
  cutoff_mono sigmoid_nonneg (fun _ _ => sigmoid_mono positive rising filled natural) below

theorem composite_mono {profile : Profile} {first second : Components (Exact exp log10)}
    (rises : NoLower profile.components first second) (weights : Weights (Exact exp log10)) :
    Score.composite profile first weights ≤ Score.composite profile second weights := by
  unfold Score.composite
  dsimp only
  split_ifs with unweighted
  · exact le_rfl
  have total : 0 < weights.total profile.components := not_le.mp (mt le_iff.mpr (by simpa using unweighted))
  apply round1_mono
  rw [clamp_scale, clamp_scale, sum_eq, sum_eq]
  have sums := List.sum_le_sum fun part listed => mul_le_mul_of_nonneg_right (share_mono rises listed)
    (div_nonneg (weight_nonneg weights part) total.le)
  exact max_le_max le_rfl (min_le_min le_rfl sums)

end Order

end ClipRank.Proofs.ExactNumbers
