import ClipRank.Tally
import ClipRank.Translator
import ClipRank.Query.Text

/-!
The operations of the engine together with what they count.
-/

namespace ClipRank

abbrev Metered := StateM Tally

/-- Why a question has no answer. -/
inductive AskFault where
  | question (fault : QuestionFault)
  | translator (fault : TranslatorFault)
  | query (rejection : Rejection)

namespace AskFault

def message : AskFault → String
  | question fault => "invalid question: " ++ fault.message
  | translator fault => fault.message
  | query rejection => rejection.message

end AskFault

namespace Metered

/-- The value of an action that starts with no counter touched. -/
def value {α : Type} (action : Metered α) : α :=
  (StateT.run action []).1

def count (counter : Counter) (amount : UInt64) : Metered Unit :=
  modify (·.add counter amount)

def intake (records : List VideoRecord) : Metered Intake := do
  let taken := Intake.ofBatch records
  count .recordsKept taken.kept.length.toUInt64
  count .recordsDropped taken.dropped.toUInt64
  return taken

/-- Scores a delivered record. -/
def score (record : VideoRecord) (profile : Profile) (weights : Weights Float) (now : Timestamp) :
    Metered (ScoredRecord Float) := do
  count .recordsScored 1
  return .ofRecord record profile weights now

/-- Scores a batch in its order. Scoring nothing touches no counter. -/
def scoreAll (records : List VideoRecord) (profile : Profile) (weights : Weights Float) (now : Timestamp) :
    Metered (List (ScoredRecord Float)) := do
  if !records.isEmpty then count .recordsScored records.length.toUInt64
  return ScoredRecord.ofRecords records profile weights now

/-- Takes in, scores and ranks a batch. Also gives the number of records dropped. -/
def rank (records : List VideoRecord) (profile : Profile) (weights : Weights Float) (now : Timestamp) :
    Metered (List (ScoredRecord Float) × Nat) := do
  let taken ← intake records
  let scored ← scoreAll taken.kept profile weights now
  return (ScoredRecord.rank scored, taken.dropped)

def execute (records : List (ScoredRecord Float)) (query : Query) : Metered QueryResult := do
  count .queriesExecuted 1
  return query.execute records

/-- Runs what a value or a text gives as a query. -/
def run (records : List (ScoredRecord Float)) (query : Except Rejection Query) :
    Metered (Except Rejection QueryResult) := do
  match query with
  | .ok query => return .ok (← execute records query)
  | .error rejection =>
    count (.queriesRejected rejection.kind) 1
    return .error rejection

def runText (records : List (ScoredRecord Float)) (text : String) : Metered (Except Rejection QueryResult) :=
  run records (Query.ofText text)

def runJson (records : List (ScoredRecord Float)) (value : Json) : Metered (Except Rejection QueryResult) :=
  run records ((Query.ofJson value).mapError .grammar)

/-- Runs what a request gives for a query: a text that holds one, or the query itself. -/
def runGiven (records : List (ScoredRecord Float)) : Json → Metered (Except Rejection QueryResult)
  | .string text => runText records text
  | value => runJson records value

/-- From a question through a translator to the records that answer it. -/
def ask (translator : Translator) (question : String) (records : List (ScoredRecord Float)) :
    Metered (Except AskFault QueryResult) := do
  match Question.read question with
  | .error fault => return .error (.question fault)
  | .ok question =>
    match translator.translate question with
    | .error fault =>
      count (.translatorCalls translator.name false) 1
      return .error (.translator fault)
    | .ok reply =>
      count (.translatorCalls translator.name true) 1
      return (← runText records reply).mapError .query

end Metered

/-- Actions with sums that are checked. At a sum that leaves its word they come to a stop,
and what they counted before stays counted. -/
abbrev Checked := OptionT Metered

namespace Checked

/-- Scores a delivered record whose likes and comments have a sum. -/
def score (record : VideoRecord) (profile : Profile) (weights : Weights Float) (now : Timestamp) :
    Checked (ScoredRecord Float) := do
  guard (ScoredRecord.ofRecord? record profile weights now).isSome
  Metered.score record profile weights now

/-- Scores a batch in its order, up to a record whose likes and comments have no sum. -/
def scoreAll (records : List VideoRecord) (profile : Profile) (weights : Weights Float) (now : Timestamp) :
    Checked (List (ScoredRecord Float)) := do
  let summed := records.takeWhile fun record => (ScoredRecord.ofRecord? record profile weights now).isSome
  let scored ← Metered.scoreAll summed profile weights now
  guard (summed.length = records.length)
  return scored

/-- Takes in, scores and ranks a batch. Also gives the number of records dropped. -/
def rank (records : List VideoRecord) (profile : Profile) (weights : Weights Float) (now : Timestamp) :
    Checked (List (ScoredRecord Float) × Nat) := do
  let taken ← Metered.intake records
  let scored ← scoreAll taken.kept profile weights now
  return (ScoredRecord.rank scored, taken.dropped)

end Checked

/-- How the records of a call are scored, with sums that are checked or not. -/
structure Scoring (m : Type → Type) where
  score : VideoRecord → Profile → Weights Float → Timestamp → m (ScoredRecord Float)
  rank : List VideoRecord → Profile → Weights Float → Timestamp → m (List (ScoredRecord Float) × Nat)

namespace Scoring

def unchecked : Scoring Metered :=
  ⟨Metered.score, Metered.rank⟩

def checked : Scoring Checked :=
  ⟨Checked.score, Checked.rank⟩

end Scoring

end ClipRank
