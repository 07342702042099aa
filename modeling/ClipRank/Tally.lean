import ClipRank.Component

/-!
Counters of what the engine has done. A counter exists from the first time that
it is touched, even by 0, and adding wraps at the size of a word.
-/

namespace ClipRank

inductive Counter where
  | recordsScored
  | queriesExecuted
  | queriesRejected (kind : String)
  | translatorCalls (provider : String) (answered : Bool)
  | recordsKept
  | recordsDropped
deriving Repr, DecidableEq

namespace Counter

/-- The series that a counter belongs to. -/
def series : Counter → String
  | recordsScored => "records_scored_total"
  | queriesExecuted => "queries_executed_total"
  | queriesRejected _ => "queries_rejected_total"
  | translatorCalls _ _ => "translator_calls_total"
  | recordsKept => "ingest_records_kept_total"
  | recordsDropped => "ingest_records_dropped_total"

def help : Counter → String
  | recordsScored => "Records passed through the score composer"
  | queriesExecuted => "Validated queries executed"
  | queriesRejected _ => "Translator outputs rejected, by kind (extraction|schema)"
  | translatorCalls _ _ => "Translator calls by provider and outcome (ok|error)"
  | recordsKept => "Input records kept after normalization"
  | recordsDropped => "Input records dropped for a blank or duplicate id"

/-- What tells the counters of a series apart. -/
def labels : Counter → List (String × String)
  | queriesRejected kind => [("kind", kind)]
  | translatorCalls provider answered =>
    [("provider", provider), ("outcome", if answered then "ok" else "error")]
  | _ => []

end Counter

/-- The counters touched so far. -/
abbrev Tally := List (Counter × UInt64)

namespace Tally

def add (tally : Tally) (counter : Counter) (amount : UInt64) : Tally :=
  match tally with
  | [] => [(counter, amount)]
  | (held, count) :: rest =>
    if held = counter then (held, count + amount) :: rest else (held, count) :: add rest counter amount

/-- The value of a counter, 0 if it was never touched. -/
def get (tally : Tally) (counter : Counter) : UInt64 :=
  ((tally.find? (·.1 = counter)).map (·.2)).getD 0

def renderLabels (labels : List (String × String)) : String :=
  if labels.isEmpty then ""
  else "\x7b" ++ ",".intercalate (labels.map fun (name, value) => name ++ "=\"" ++ value ++ "\"") ++ "\x7d"

/-- One line for each counter, and one for the profile that is scored with. -/
def samples (tally : Tally) (profile : Profile) : List String :=
  ("scoring_profile_active" ++ renderLabels [("profile", profile.name)] ++ " 1") ::
    tally.map fun (counter, count) =>
      counter.series ++ renderLabels counter.labels ++ " " ++ toString count.toNat

/-- The lines that describe the series. -/
def descriptions (tally : Tally) : List String :=
  "# TYPE scoring_profile_active gauge" ::
    (tally.map fun (counter, _) =>
      ["# HELP " ++ counter.series ++ " " ++ counter.help, "# TYPE " ++ counter.series ++ " counter"]).flatten.eraseDups

/-- All lines in the order of their characters. -/
def exposition (tally : Tally) (profile : Profile) : List String :=
  (tally.descriptions ++ tally.samples profile).mergeSort fun a b => a ≤ b

end Tally

end ClipRank
