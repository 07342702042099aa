import Mathlib.Data.List.TakeWhile
import ClipRank.Proofs.ServiceRuns

/-! What a program does that checks the sum of likes and comments. Wherever a word holds the
sums of all that it scores, it does what a program does that does not check, and otherwise it
comes to a stop. So what is shown of the one holds of the answers of the other. -/

namespace ClipRank.Proofs.CheckedSums
open Metering ServiceRuns

/-- A word holds both together. -/
def Fits (likes comments : UInt64) : Prop :=
  likes.toNat + comments.toNat < UInt64.size

instance (likes comments : UInt64) : Decidable (Fits likes comments) :=
  inferInstanceAs (Decidable (_ < _))

theorem Fits.fewer {likes comments fewer : UInt64} (fits : Fits likes comments) (less : fewer ≤ comments) : Fits likes fewer :=
  lt_of_le_of_lt (Nat.add_le_add_left (UInt64.le_iff_toNat_le.mp less) _) fits

section Sums
variable {α : Type} {metrics : RawMetrics α}

theorem reactions_fits (metrics : RawMetrics α) (fits : Fits metrics.likes metrics.comments) :
    metrics.reactions.toNat = metrics.likes.toNat + metrics.comments.toNat :=
  (UInt64.toNat_add ..).trans (Nat.mod_eq_of_lt fits)

private theorem reactions?_fits (fits : Fits metrics.likes metrics.comments) : metrics.reactions? = some metrics.reactions :=
  if_pos fits

private theorem reactions?_long (long : ¬ Fits metrics.likes metrics.comments) : metrics.reactions? = none :=
  if_neg long

/-- The sum is exact, or there is none. -/
theorem reactions?_eq_some_iff {sum : UInt64} :
    metrics.reactions? = some sum ↔ sum.toNat = metrics.likes.toNat + metrics.comments.toNat := by
  by_cases fits : Fits metrics.likes metrics.comments
  · rw [reactions?_fits fits, Option.some.injEq, ← reactions_fits metrics fits, eq_comm, UInt64.toNat_inj]
  · rw [reactions?_long fits]
    exact ⟨nofun, fun whole => absurd (whole.symm.trans_lt sum.toNat_lt) fits⟩

variable [Scalar α] {id title : String} {profile : Profile} {weights : Weights α}

theorem components?_fits (fits : Fits metrics.likes metrics.comments) :
    Score.components? profile metrics = some (Score.components profile metrics (Rates.ofMetrics metrics)) := by
  unfold Score.components?
  rw [reactions?_fits fits]
  rfl

theorem components?_long (long : ¬ Fits metrics.likes metrics.comments) : Score.components? profile metrics = none := by
  unfold Score.components?
  rw [reactions?_long long]
  rfl

theorem components?_eq_none_iff : Score.components? profile metrics = none ↔ ¬ Fits metrics.likes metrics.comments := by
  refine ⟨fun stopped fits => ?_, components?_long⟩
  rw [components?_fits fits] at stopped
  cases stopped

theorem ofMetrics?_fits (fits : Fits metrics.likes metrics.comments) :
    ScoredRecord.ofMetrics? id title metrics profile weights = some (.ofMetrics id title metrics profile weights) := by
  have known : Score.components? profile metrics.sanitized = some _ := components?_fits fits
  unfold ScoredRecord.ofMetrics?
  dsimp only
  rw [known]
  rfl

theorem ofMetrics?_long (long : ¬ Fits metrics.likes metrics.comments) :
    ScoredRecord.ofMetrics? id title metrics profile weights = none := by
  have stopped : Score.components? profile metrics.sanitized = none := components?_long long
  unfold ScoredRecord.ofMetrics?
  dsimp only
  rw [stopped]
  rfl

theorem ofMetrics?_eq_none_iff :
    ScoredRecord.ofMetrics? id title metrics profile weights = none ↔ ¬ Fits metrics.likes metrics.comments := by
  refine ⟨fun stopped fits => ?_, ofMetrics?_long⟩
  rw [ofMetrics?_fits fits] at stopped
  cases stopped

end Sums

section Batches
variable {record : VideoRecord} {records : List VideoRecord} {profile : Profile} {weights : Weights Float} {now : Timestamp}

private theorem ofRecord?_fits (fits : Fits record.likes record.comments) :
    ScoredRecord.ofRecord? record profile weights now = some (.ofRecord record profile weights now) := by
  have scored : ScoredRecord.ofMetrics? record.id record.title (record.rawMetrics now) profile weights =
      some (.ofMetrics record.id record.title (record.rawMetrics now) profile weights) := ofMetrics?_fits fits
  unfold ScoredRecord.ofRecord?
  rw [scored]
  rfl

private theorem ofRecord?_long (long : ¬ Fits record.likes record.comments) :
    ScoredRecord.ofRecord? record profile weights now = none := by
  have stopped : ScoredRecord.ofMetrics? record.id record.title (record.rawMetrics now) profile weights = none :=
    ofMetrics?_long long
  unfold ScoredRecord.ofRecord?
  rw [stopped]
  rfl

theorem score_fits (fits : Fits record.likes record.comments) :
    Checked.score record profile weights now = liftM (Metered.score record profile weights now) := by
  unfold Checked.score
  rw [ofRecord?_fits fits]
  rfl

theorem score_long (long : ¬ Fits record.likes record.comments) : Yields (Checked.score record profile weights now).run none 0 := by
  unfold Checked.score
  rw [ofRecord?_long long]
  exact Yields.stopped Yields.failure

/-- The records before the first one whose likes and comments have no sum. -/
def summed (records : List VideoRecord) : List VideoRecord :=
  records.takeWhile fun record => Fits record.likes record.comments

theorem summed_eq (profile : Profile) (weights : Weights Float) (now : Timestamp) :
    (records.takeWhile fun record => (ScoredRecord.ofRecord? record profile weights now).isSome) = summed records := by
  unfold summed
  congr 1
  funext record
  by_cases fits : Fits record.likes record.comments
  · rw [ofRecord?_fits fits]
    exact (decide_eq_true fits).symm
  · rw [ofRecord?_long fits]
    exact (decide_eq_false fits).symm

theorem summed_eq_self_iff : summed records = records ↔ ∀ record ∈ records, Fits record.likes record.comments := by
  unfold summed
  rw [List.takeWhile_eq_self_iff]
  simp only [decide_eq_true_eq]

theorem scoreAll_fits (fits : ∀ record ∈ records, Fits record.likes record.comments) :
    Checked.scoreAll records profile weights now = liftM (Metered.scoreAll records profile weights now) := by
  have going : (guard (records.length = records.length) : Checked Unit) = pure () := if_pos rfl
  unfold Checked.scoreAll
  dsimp only
  rw [summed_eq, summed_eq_self_iff.mpr fits, going]
  simp only [pure_bind, bind_pure]

theorem scoreAll_long (long : ∃ record ∈ records, ¬ Fits record.likes record.comments) :
    Yields (Checked.scoreAll records profile weights now).run none (Pi.single .recordsScored (summed records).length) := by
  have shorter : (summed records).length ≠ records.length := by
    intro same
    obtain ⟨record, present, long⟩ := long
    have whole := (List.takeWhile_prefix _).eq_of_length same
    exact long (summed_eq_self_iff.mp whole record present)
  have stop : (guard ((summed records).length = records.length) : Checked Unit) = failure := if_neg shorter
  unfold Checked.scoreAll
  dsimp only
  rw [summed_eq, stop, ← add_zero (Pi.single _ _)]
  apply Yields.going (scoreAll_yields ..).lift
  exact Yields.stopped Yields.failure

theorem rank_fits (fits : ∀ record ∈ (Intake.ofBatch records).kept, Fits record.likes record.comments) :
    Checked.rank records profile weights now = liftM (Metered.rank records profile weights now) := by
  unfold Checked.rank Metered.rank Metered.intake
  simp only [liftM_bind, liftM_pure, bind_assoc, pure_bind, scoreAll_fits fits]

/-- What a batch counts that comes to a stop. -/
def stoppedAmounts (records : List VideoRecord) : Counter → Nat :=
  let taken := Intake.ofBatch records
  Pi.single .recordsKept taken.kept.length + Pi.single .recordsDropped taken.dropped +
    Pi.single .recordsScored (summed taken.kept).length

theorem rank_long (long : ∃ record ∈ (Intake.ofBatch records).kept, ¬ Fits record.likes record.comments) :
    Yields (Checked.rank records profile weights now).run none (stoppedAmounts records) := by
  apply Yields.going (intake_yields records).lift
  exact Yields.stopped (scoreAll_long long)

end Batches

section Service
variable {service : Service} {surroundings : Surroundings}

/-- The records that are scored for a call. -/
def scored : Call → List VideoRecord
  | .health | .weights => []
  | .explain record _ => [record]
  | .score records _ | .query records _ _ | .ask records _ _ => (Intake.ofBatch records).kept

theorem performBy_fits {call : Call} (fits : ∀ record ∈ scored call, Fits record.likes record.comments) :
    Service.performBy .checked service surroundings call = liftM (service.perform surroundings call) := by
  cases call with
  | health => rfl
  | weights => rfl
  | score records overrides =>
    simp only [Service.perform, Service.performBy, Scoring.checked, rank_fits fits]
    rfl
  | explain record overrides =>
    simp only [Service.perform, Service.performBy, Scoring.checked, score_fits (fits record List.mem_cons_self)]
    rfl
  | query records query overrides =>
    simp only [Service.perform, Service.performBy, Scoring.checked, rank_fits fits]
    rfl
  | ask records question overrides =>
    simp only [Service.perform, Service.performBy, Scoring.checked, rank_fits fits]
    rfl

/-- What a call counts that comes to a stop. -/
def callStopped : Call → Counter → Nat
  | .health | .weights | .explain _ _ => 0
  | .score records _ | .query records _ _ | .ask records _ _ => stoppedAmounts records

theorem performBy_long {call : Call} (long : ∃ record ∈ scored call, ¬ Fits record.likes record.comments) :
    Yields (Service.performBy .checked service surroundings call).run none (callStopped call) := by
  cases call with
  | health => simp [scored] at long
  | weights => simp [scored] at long
  | explain record overrides =>
    obtain ⟨_, only, long⟩ := long
    obtain rfl := List.mem_singleton.mp only
    exact Yields.stopped (score_long long)
  | score records overrides => exact Yields.stopped (rank_long long)
  | query records query overrides => exact Yields.stopped (rank_long long)
  | ask records question overrides => exact Yields.stopped (rank_long long)

/-- A service that checks its sums responds and counts as one that does not, if a word holds
the likes and comments of each record that it scores for the request. If not, it has counted
the batch and the records before the first such record, and has no response. -/
theorem respond_checked (service : Service) (surroundings : Surroundings) (request : Request) :
    ((∀ call, understood request = some call → ∀ record ∈ scored call, Fits record.likes record.comments) →
      service.respond? surroundings request = liftM (service.respond surroundings request)) ∧
    ∀ call, understood request = some call → (∃ record ∈ scored call, ¬ Fits record.likes record.comments) →
      Yields (service.respond? surroundings request).run none (callStopped call) := by
  unfold Service.respond? Service.respond Service.respondBy Service.answerBy understood
  constructor
  · intro fits
    cases found : Call.ofRequest request with
    | error refusal => split <;> rfl
    | ok call =>
      have carried : Service.performBy .checked service surroundings call = _ :=
        performBy_fits (fits call (by rw [found]; rfl))
      dsimp only
      rw [carried]
      split <;> rfl
  · intro call known long
    cases found : Call.ofRequest request with
    | error refusal =>
      rw [found] at known
      cases known
    | ok asked =>
      rw [found] at known
      cases known
      dsimp only
      rw [if_neg (method_of_call found)]
      exact Yields.stopped (Yields.stopped (performBy_long long))

end Service

end ClipRank.Proofs.CheckedSums
