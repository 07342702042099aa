import ClipRank.Proofs.BatchIntake
import ClipRank.Proofs.ServiceRuns

/-! What the counters say of a run: every record, query and question of its requests is
counted once, and nothing else is. -/

namespace ClipRank.Proofs.CounterBalance
open Metering ServiceRuns

section Calls

/-- The records that a call delivers as a batch. -/
def batch : Call → List VideoRecord
  | .score records _ | .query records _ _ | .ask records _ _ => records
  | .health | .weights | .explain _ _ => []

end Calls

/-- The amounts are those of so many records, of explained records, of queries and of
questions. -/
structure Balanced (provider : String) (records explained queries questions : Nat) (amounts : Counter → Nat) : Prop where
  taken : amounts .recordsKept + amounts .recordsDropped = records
  scored : amounts .recordsScored = amounts .recordsKept + explained
  judged : amounts .queriesExecuted + (amounts (.queriesRejected "extraction") + amounts (.queriesRejected "schema")) =
    queries
  asked : amounts (.translatorCalls provider true) + amounts (.translatorCalls provider false) = questions

section Parts
variable {provider : String}

theorem Balanced.add {records explained queries questions records' explained' queries' questions' : Nat}
    {amounts more : Counter → Nat} (first : Balanced provider records explained queries questions amounts)
    (second : Balanced provider records' explained' queries' questions' more) :
    Balanced provider (records + records') (explained + explained') (queries + queries') (questions + questions')
      (amounts + more) := by
  obtain ⟨taken, scored, judged, asked⟩ := first
  obtain ⟨taken', scored', judged', asked'⟩ := second
  constructor <;> simp only [Pi.add_apply] <;> omega

end Parts

section Run

/-- The records of all batches of a run. -/
def delivered (turns : List Turn) : List VideoRecord :=
  turns.flatMap fun turn => (understood turn.request).elim [] batch

/-- A counter after some turns of a service that nothing was counted for before. -/
def count (service : Service) (turns : List Turn) (counter : Counter) : Nat :=
  ((StateT.run (serve service turns) []).2.get counter).toNat

private theorem count_eq (service : Service) (turns : List Turn) (counter : Counter) :
    count service turns counter = runAmounts service.translator.name turns counter % UInt64.size := by
  obtain ⟨_, yields, _⟩ := serve_yields service turns
  unfold count
  rw [yields.counted [] counter]
  simp [Tally.get]

end Run

end ClipRank.Proofs.CounterBalance
