import ClipRank.Proofs.Magnitudes
import ClipRank.Proofs.RecordRoundTrip
import ClipRank.Proofs.ScoreScale

/-! The rates of a record. Each of them is finite and not negative whatever the counters,
but for the daily views: they are divided by the age as it is, and an age that is short
enough makes them too large for a double. -/

namespace ClipRank.Proofs.RateBounds
open DoubleValue WholeDoubles Rounding SignedDoubles Magnitudes ScoreScale
open RecordRoundTrip (ratesDoubles)
open Scalar

def Usable (x : Float) : Prop :=
  ∃ p, value? x = some p ∧ 0 ≤ p

variable {x y : Float} {p q : ℚ} {exponent : Nat}

theorem usable_of_within {bound : Nat} (within : Within bound x) : Usable x := by
  obtain ⟨p, found, low, _⟩ := within
  exact ⟨p, found, low⟩

section Powers

theorem near_power {number : ℚ} (near : Near x number) (most : exponent ≤ 1023) (low : 0 ≤ number)
    (high : number ≤ 2 ^ exponent) : Within (2 ^ exponent) x := by
  obtain ⟨power, found⟩ := exists_power most
  obtain ⟨value, same, below, above⟩ := near.bounded value_zero found low high
  exact ⟨value, same, below, by push_cast; exact above⟩

private theorem mul_power (within : Within (2 ^ exponent) x) {count : Nat} (found : value? y = some (count : ℚ))
    {places : Nat} (size : count ≤ 2 ^ places) (most : exponent + places ≤ 1023) :
    Within (2 ^ (exponent + places)) (x * y) := by
  obtain ⟨p, same, low, high⟩ := within
  have bound : (count : ℚ) ≤ 2 ^ places := by exact_mod_cast size
  push_cast at high
  apply near_power (near_mul same found) most
  · exact mul_nonneg low (Nat.cast_nonneg _)
  · rw [pow_add]
    exact mul_le_mul high bound (Nat.cast_nonneg _) (by positivity)

private theorem add_power (first : Within (2 ^ exponent) x) (second : Within (2 ^ exponent) y) (most : exponent < 1023) :
    Within (2 ^ (exponent + 1)) (x + y) := by
  obtain ⟨p, found, low, high⟩ := first
  obtain ⟨q, other, otherLow, otherHigh⟩ := second
  push_cast at high otherHigh
  apply near_power (near_add found other) most
  · exact add_nonneg low otherLow
  · rw [pow_succ, mul_two]
    exact add_le_add high otherHigh

theorem div_power (within : Within (2 ^ exponent) x) (found : value? y = some q) (least : 1 ≤ q)
    (most : exponent ≤ 1023) : Within (2 ^ exponent) (x / y) := by
  obtain ⟨p, same, low, high⟩ := within
  push_cast at high
  apply near_power (near_div same found (zero_lt_one.trans_le least).ne') most
  · exact div_nonneg low (zero_le_one.trans least)
  · exact (div_le_self low least).trans high

/-- A counter loses at most its last digits. -/
theorem count_power (word : UInt64) : Within (2 ^ 64) word.toFloat := by
  apply near_power (near_toFloat word) (by norm_num) (Nat.cast_nonneg _)
  exact_mod_cast word.toNat_lt.le

theorem count_least {word : UInt64} (counted : word ≠ 0) : ∃ q, value? word.toFloat = some q ∧ 1 ≤ q := by
  obtain ⟨q, found, _⟩ := count_power word
  refine ⟨q, found, (le_iff value_one found).mp ((near_toFloat word _ _ value_one).1 ?_)⟩
  have positive : word.toNat ≠ 0 := fun zero => counted (UInt64.toNat_inj.mp zero)
  exact_mod_cast Nat.one_le_iff_ne_zero.mpr positive

end Powers

section Rates

private theorem perThousand_power (amount : Within (2 ^ exponent) x) (views : UInt64) (most : exponent + 10 ≤ 1023) :
    Within (2 ^ (exponent + 10)) (Rates.perThousand x views) := by
  have thousand : value? 1000.0 = some ((1000 : Nat) : ℚ) := value_literal 1000 (by decide) (by decide)
  unfold Rates.perThousand
  split
  · exact within_zero
  next viewed =>
    obtain ⟨q, found, least⟩ := count_least viewed
    exact mul_power (div_power amount found least (by omega)) thousand (by norm_num) most

private theorem weightedEngagement_power (metrics : RawMetrics Float) :
    Within (2 ^ 78) (Rates.weightedEngagement metrics) := by
  have five : value? 5.0 = some ((5 : Nat) : ℚ) := value_literal 5 (by decide) (by decide)
  have one : value? 1.0 = some ((1 : Nat) : ℚ) := value_literal 1 (by decide) (by decide)
  have likes := mul_power (count_power metrics.likes) one (by norm_num : 1 ≤ 2 ^ 3) (by norm_num)
  have comments := mul_power (count_power metrics.comments) five (by norm_num : 5 ≤ 2 ^ 3) (by norm_num)
  exact perThousand_power (add_power likes comments (by norm_num)) metrics.views (by norm_num)

private theorem billableMinutes_least (metrics : RawMetrics Float) :
    ∃ q, value? metrics.sanitized.billableMinutes = some q ∧ 1 ≤ q := by
  obtain ⟨duration, found, natural, _⟩ := positivePart_usable metrics.durationSeconds
  have sixty : value? 60.0 = some ((60 : Nat) : ℚ) := value_literal 60 (by decide) (by decide)
  obtain ⟨minutes, same, _, _⟩ :=
    (near_div found sixty (by norm_num)).bounded value_zero found (by positivity) (div_le_self natural (by norm_num))
  unfold RawMetrics.billableMinutes atLeast
  split
  next long => exact ⟨minutes, same, ((lt_iff value_one same).mp long).le⟩
  · exact ⟨1, value_one, le_rfl⟩

/-- The age is so short that the views of a day are beyond the largest double. -/
def TooYoung (metrics : RawMetrics Float) : Prop :=
  ∃ views age : ℚ, value? metrics.views.toFloat = some views ∧ value? metrics.ageDays = some age ∧ 0 < age ∧
    limit ≤ views / age

private theorem positivePart_iff : value? (positivePart x) = some p ∧ 0 < p ↔ value? x = some p ∧ 0 < p := by
  unfold positivePart
  split
  · rfl
  next unusable =>
    have nothing : value? (zero : Float) = some 0 := value_zero
    rw [nothing, Option.some.injEq]
    constructor
    · rintro ⟨rfl, positive⟩
      exact absurd positive (lt_irrefl 0)
    · rintro ⟨found, positive⟩
      have finite : x.isFinite = true := by rw [← value_isSome, found]; rfl
      have above : Float.lt 0.0 x = true := (lt_iff value_zero found).mpr positive
      exact absurd (Bool.and_eq_true_iff.mpr ⟨finite, above⟩) unusable

/-- The daily views are never negative, and they are finite unless the age is too short. -/
private theorem dailyViews_usable (metrics : RawMetrics Float) :
    (∀ r, value? (Rates.dailyViews metrics.sanitized) = some r → 0 ≤ r) ∧
      ((∃ r, value? (Rates.dailyViews metrics.sanitized) = some r) ↔ ¬ TooYoung metrics) := by
  obtain ⟨views, counted, viewed, _⟩ := count_power metrics.views
  obtain ⟨age, found, natural, _⟩ := positivePart_usable metrics.ageDays
  have young : TooYoung metrics ↔ 0 < age ∧ limit ≤ views / age := by
    constructor
    · rintro ⟨others, other, same, given, positive, large⟩
      have kept := (positivePart_iff.mpr ⟨given, positive⟩).1
      rw [counted, Option.some.injEq] at same
      rw [found, Option.some.injEq] at kept
      subst same kept
      exact ⟨positive, large⟩
    · rintro ⟨positive, large⟩
      exact ⟨views, age, counted, (positivePart_iff.mp ⟨found, positive⟩).1, positive, large⟩
  unfold Rates.dailyViews
  split
  next today =>
    obtain ⟨_, low⟩ := Bool.and_eq_true_iff.mp today
    have nothing : age ≤ 0 := (le_iff found value_zero).mp low
    rw [young]
    refine ⟨fun r same => ?_, iff_of_true ⟨views, counted⟩ fun ⟨positive, _⟩ => absurd positive (not_lt.mpr nothing)⟩
    obtain rfl := Option.some.inj (counted.symm.trans same)
    exact viewed
  next later =>
    have positive : 0 < age := by
      rcases natural.eq_or_lt with rfl | positive
      · exact absurd (Bool.and_eq_true_iff.mpr ⟨(le_iff value_zero found).mpr le_rfl, (le_iff found value_zero).mpr le_rfl⟩) later
      · exact positive
    constructor
    · intro r same
      have quotient := near_div counted found positive.ne' 0.0 0 value_zero
      exact (le_iff value_zero same).mp (quotient.1 (div_nonneg viewed natural))
    · rw [young]
      refine (div_finite_iff counted found viewed positive).trans ?_
      rw [← not_le]
      exact not_congr ⟨fun large => ⟨positive, large⟩, And.right⟩

end Rates

section Records

/-- What a record calls its rates, in the order of `ratesDoubles`. -/
def rateNames : List String :=
  ["likeRate", "commentRate", "engagementRate", "viewsPerDay", "viewsPerMinute", "engagementPerMinute"]

/-- A rate in the view of a record that queries and clients read. -/
def rateInView? (record : ScoredRecord Float) (name : String) : Option Json :=
  (record.toJson.get? "rates").bind (·.get? name)

private theorem ofFloat_number : (∃ number, Json.ofFloat x = .number number) ↔ ∃ r, value? x = some r := by
  rw [← Option.isSome_iff_exists, value_isSome]
  unfold Json.ofFloat
  cases x.isFinite <;> simp

private theorem rates_in_view (record : ScoredRecord Float) :
    rateNames.map (rateInView? record) = (ratesDoubles record.rates).map (some ∘ Json.ofFloat) := by
  simp [rateNames, ratesDoubles, rateInView?, ScoredRecord.toJson, Rates.toJson, Json.get?, Members.get?]

private theorem numbers_in_view (record : ScoredRecord Float) :
    (∀ name ∈ rateNames, ∃ number, rateInView? record name = some (.number number)) ↔
      ∀ rate ∈ ratesDoubles record.rates, ∃ r, value? rate = some r := by
  have view := List.forall_mem_map (f := rateInView? record) (l := rateNames)
    (P := fun value => ∃ number, value = some (Json.number number))
  rw [← view, rates_in_view, List.forall_mem_map]
  simp only [Function.comp_apply, Option.some.injEq, ofFloat_number]

/-- All rates of a scored record are usable, and all are numbers where the record is read
as JSON, just when the age is not too short. It only matters for the daily views. -/
theorem rates_usable_exactly (id title : String) (metrics : RawMetrics Float) (profile : Profile)
    (weights : Weights Float) (metadata : Members) :
    let record := { ScoredRecord.ofMetrics id title metrics profile weights with metadata }
    ((∀ rate ∈ ratesDoubles record.rates, Usable rate) ↔ ¬ TooYoung metrics) ∧
    ((∀ name ∈ rateNames, ∃ number, rateInView? record name = some (.number number)) ↔ ¬ TooYoung metrics) ∧
    Usable record.rates.likeRate ∧ Usable record.rates.commentRate ∧ Usable record.rates.engagementRate ∧
    Usable record.rates.viewsPerMinute ∧ Usable record.rates.engagementPerMinute := by
  intro record
  obtain ⟨natural, finite⟩ := dailyViews_usable metrics
  obtain ⟨minutes, found, least⟩ := billableMinutes_least metrics
  have perThousand (word : UInt64) : Usable (Rates.perThousand word.toFloat metrics.views) :=
    usable_of_within (perThousand_power (count_power word) _ (by norm_num))
  have perMinute (word : UInt64) : Usable (word.toFloat / metrics.sanitized.billableMinutes) :=
    usable_of_within (div_power (count_power word) found least (by norm_num))
  have likes : Usable record.rates.likeRate := perThousand metrics.likes
  have comments : Usable record.rates.commentRate := perThousand metrics.comments
  have engagement : Usable record.rates.engagementRate := usable_of_within (weightedEngagement_power metrics.sanitized)
  have views : Usable record.rates.viewsPerMinute := perMinute metrics.views
  have reactions : Usable record.rates.engagementPerMinute := perMinute metrics.reactions
  have daily : Usable record.rates.viewsPerDay ↔ ¬ TooYoung metrics := by
    rw [← finite]
    exact ⟨fun ⟨r, same, _⟩ => ⟨r, same⟩, fun ⟨r, same⟩ => ⟨r, same, natural r same⟩⟩
  have usable : (∀ rate ∈ ratesDoubles record.rates, Usable rate) ↔ ¬ TooYoung metrics := by
    simp [ratesDoubles, likes, comments, engagement, views, reactions, daily]
  refine ⟨usable, ?_, likes, comments, engagement, views, reactions⟩
  rw [numbers_in_view, ← usable]
  constructor
  · intro numbers
    exact usable.mpr (finite.mp (numbers record.rates.viewsPerDay (by simp [ratesDoubles])))
  · intro kept rate member
    obtain ⟨r, same, _⟩ := kept rate member
    exact ⟨r, same⟩

/-- With one view at the least age above zero the views of a day are infinite, and the
record is read with a null in their place. -/
theorem daily_views_overflow :
    let record := ScoredRecord.ofMetrics "a" "" ⟨1, 0, 0, least, 0.0⟩ .classic default
    TooYoung ⟨1, 0, 0, least, 0.0⟩ ∧
    record.rates.viewsPerDay.isFinite = false ∧
    rateInView? record "viewsPerDay" = some .null ∧
    ¬ ∀ metrics : RawMetrics Float, ∀ rate ∈ ratesDoubles (Rates.ofMetrics metrics.sanitized), Usable rate := by
  intro record
  have infinite : record.rates.viewsPerDay.isFinite = false := by decide
  have viewed : value? (1 : UInt64).toFloat = some ((1 : UInt64).toNat : ℚ) := value_toFloat (by decide)
  refine ⟨⟨1, 2 ^ (-1074 : Int), by simpa using viewed, value_least, by positivity, ?_⟩, infinite, ?_, ?_⟩
  · rw [one_div, ← zpow_neg, neg_neg, zpow_ofNat]
    exact limit_le_top.trans (pow_le_pow_right₀ one_le_two (by norm_num))
  · have view : rateInView? record "viewsPerDay" = some (.ofFloat record.rates.viewsPerDay) := by
      simp [rateInView?, ScoredRecord.toJson, Rates.toJson, Json.get?, Members.get?]
    rw [view, Json.ofFloat, infinite]
    rfl
  · intro usable
    have listed : record.rates.viewsPerDay ∈ ratesDoubles (Rates.ofMetrics (RawMetrics.sanitized ⟨1, 0, 0, least, 0.0⟩)) := by
      simp [ratesDoubles, record, ScoredRecord.ofMetrics, ScoredRecord.ofComponents]
    obtain ⟨r, found, _⟩ := usable _ _ listed
    have finite := (value_isSome record.rates.viewsPerDay).symm.trans (Option.isSome_iff_exists.mpr ⟨r, found⟩)
    rw [infinite] at finite
    cases finite

end Records

end ClipRank.Proofs.RateBounds
