import ClipRank.Metered
import Mathlib.Algebra.Group.Pi.Basic
import Mathlib.Algebra.Ring.Nat

/-! What the operations of the engine give and what they count. Each of them gives one
value, whatever was counted before, and adds amounts that do not depend on it, so the
amounts of a program are those of its parts, added up. -/

namespace ClipRank.Proofs.Metering

theorem get_add (tally : Tally) (counter other : Counter) (amount : UInt64) :
    (tally.add counter amount).get other = tally.get other + if counter = other then amount else 0 := by
  induction tally with
  | nil => by_cases same : counter = other <;> simp [Tally.add, Tally.get, same]
  | cons first rest ih =>
    obtain ⟨held, total⟩ := first
    have skipped (entries : Tally) (differ : held ≠ other) : Tally.get ((held, total) :: entries) other = entries.get other := by
      simp [Tally.get, differ]
    unfold Tally.add
    by_cases found : held = counter
    · subst found
      rw [if_pos rfl]
      by_cases same : held = other
      · subst same
        simp [Tally.get]
      · simp [Tally.get, same]
    · rw [if_neg found]
      by_cases same : held = other
      · subst same
        simp [Tally.get, Ne.symm found]
      · rw [skipped _ same, skipped _ same, ih]

/-- The amounts are exact. The counters hold them as far as a word goes. -/
structure Yields {α : Type} (action : Metered α) (value : α) (amounts : Counter → Nat) : Prop where
  value : ∀ tally, (StateT.run action tally).1 = value
  counted : ∀ tally counter,
    (StateT.run action tally).2.get counter = tally.get counter + UInt64.ofNat (amounts counter)

section Program
variable {α β : Type} {action : Metered α} {value : α} {next : α → Metered β} {result : β} {amounts more : Counter → Nat}

theorem Yields.pure (value : α) : Yields (Pure.pure value) value 0 := by
  constructor
  · intro tally
    rfl
  · intro tally counter
    exact (UInt64.add_zero _).symm

theorem Yields.bind (first : Yields action value amounts) (second : Yields (next value) result more) :
    Yields (action >>= next) result (amounts + more) := by
  have run (tally : Tally) : StateT.run (action >>= next) tally = StateT.run (next value) (StateT.run action tally).2 := by
    rw [← first.value tally]
    rfl
  constructor
  · intro tally
    rw [run]
    exact second.value _
  · intro tally counter
    rw [run, second.counted, first.counted, UInt64.add_assoc, ← UInt64.ofNat_add]
    rfl

/-- Reshaping a value counts nothing. -/
theorem Yields.map (yields : Yields action value amounts) (f : α → β) :
    Yields (action >>= fun value => Pure.pure (f value)) (f value) amounts := by
  constructor
  · intro tally
    exact congrArg f (yields.value tally)
  · exact yields.counted

theorem Yields.count (counter : Counter) (amount : Nat) :
    Yields (Metered.count counter (UInt64.ofNat amount)) () (Pi.single counter amount) := by
  constructor
  · intro tally
    rfl
  · intro tally other
    refine (get_add tally counter other _).trans ?_
    by_cases same : counter = other
    · subst same
      rw [if_pos rfl, Pi.single_eq_same]
    · rw [if_neg same, Pi.single_eq_of_ne (Ne.symm same)]
      rfl

end Program

section Checked
variable {α β : Type} {action : Metered α} {start : Checked α} {value : α} {next : α → Checked β} {result : Option β}
variable {amounts more : Counter → Nat}

theorem Yields.lift (yields : Yields action value amounts) : Yields (liftM action : Checked α).run (some value) amounts :=
  Yields.map yields some

theorem Yields.going (first : Yields start.run (some value) amounts) (second : Yields (next value).run result more) :
    Yields (start >>= next).run result (amounts + more) := by
  rw [OptionT.run_bind]
  exact Yields.bind first second

/-- After a stop nothing is done, and nothing is counted. -/
theorem Yields.stopped (first : Yields start.run none amounts) : Yields (start >>= next).run none amounts := by
  rw [OptionT.run_bind, ← add_zero amounts]
  exact Yields.bind first (Yields.pure none)

theorem Yields.failure : Yields (failure : Checked α).run none 0 :=
  Yields.pure none

end Checked

section Batch
variable (records : List VideoRecord) (profile : Profile) (weights : Weights Float) (now : Timestamp)

def batchAmounts : Counter → Nat :=
  let taken := Intake.ofBatch records
  Pi.single .recordsKept taken.kept.length + Pi.single .recordsDropped taken.dropped +
    Pi.single .recordsScored taken.kept.length

theorem intake_yields : Yields (Metered.intake records) (Intake.ofBatch records)
    (Pi.single .recordsKept (Intake.ofBatch records).kept.length +
      Pi.single .recordsDropped (Intake.ofBatch records).dropped) := by
  apply Yields.bind (Yields.count ..)
  exact Yields.map (Yields.count ..) fun _ => Intake.ofBatch records

theorem score_yields (record : VideoRecord) : Yields (Metered.score record profile weights now)
    (ScoredRecord.ofRecord record profile weights now) (Pi.single .recordsScored 1) :=
  Yields.map (Yields.count .recordsScored 1) _

theorem scoreAll_yields : Yields (Metered.scoreAll records profile weights now)
    (ScoredRecord.ofRecords records profile weights now) (Pi.single .recordsScored records.length) := by
  cases records with
  | nil =>
    rw [List.length_nil, Pi.single_zero]
    exact Yields.pure _
  | cons record rest => exact Yields.map (Yields.count .recordsScored (record :: rest).length) _

theorem rank_yields : Yields (Metered.rank records profile weights now)
    (ScoredRecord.rank (ScoredRecord.ofRecords (Intake.ofBatch records).kept profile weights now),
      (Intake.ofBatch records).dropped) (batchAmounts records) :=
  Yields.bind (intake_yields records) (Yields.map (scoreAll_yields ..) _)

end Batch

section Query
variable (scored : List (ScoredRecord Float))

def queryAmounts : Except Rejection Query → Counter → Nat
  | .ok _ => Pi.single .queriesExecuted 1
  | .error rejection => Pi.single (.queriesRejected rejection.kind) 1

theorem run_yields (query : Except Rejection Query) :
    Yields (Metered.run scored query) (query.map (Query.execute scored)) (queryAmounts query) := by
  cases query with
  | ok query => exact Yields.map (Yields.map (Yields.count .queriesExecuted 1) _) _
  | error rejection => exact Yields.map (Yields.count (.queriesRejected rejection.kind) 1) _

def answerTo (translator : Translator) (question : String) : Except AskFault QueryResult :=
  match Question.read question with
  | .error fault => .error (.question fault)
  | .ok question =>
    match translator.translate question with
    | .error fault => .error (.translator fault)
    | .ok reply => (Query.runText scored reply).mapError .query

/-- What asking a question counts. A refused one never comes to the translator. -/
def questionAmounts (translator : Translator) (question : String) : Counter → Nat :=
  match Question.read question with
  | .error _ => 0
  | .ok question =>
    match translator.translate question with
    | .error _ => Pi.single (.translatorCalls translator.name false) 1
    | .ok reply => Pi.single (.translatorCalls translator.name true) 1 + queryAmounts (Query.ofText reply)

theorem ask_yields (translator : Translator) (question : String) : Yields (Metered.ask translator question scored)
    (answerTo scored translator question) (questionAmounts translator question) := by
  unfold Metered.ask answerTo questionAmounts
  cases Question.read question with
  | error fault => exact Yields.pure _
  | ok question =>
    dsimp only
    cases translator.translate question with
    | error fault => exact Yields.map (Yields.count (.translatorCalls translator.name false) 1) _
    | ok reply =>
      apply Yields.bind (Yields.count (.translatorCalls translator.name true) 1)
      exact Yields.map (run_yields scored (Query.ofText reply)) _

end Query

end ClipRank.Proofs.Metering
