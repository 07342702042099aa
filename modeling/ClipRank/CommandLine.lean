import ClipRank.Metered
import ClipRank.RecordsFile
import ClipRank.Report
import ClipRank.WeightsFile

/-!
The command that scores a file of records and prints them ranked, or as a query
asks.
-/

namespace ClipRank.CommandLine

/-- What the user asks for. -/
structure Arguments where
  path : String
  query : Option String
  profile : Profile

/-- Further arguments are passed over. -/
def Arguments.ofList : List String → Outcome Arguments
  | [] => .error (.ofCause .usage)
  | [path] => .ok ⟨path, none, default⟩
  | [path, query] => .ok ⟨path, some query, default⟩
  | path :: query :: name :: _ =>
    match Profile.parse name with
    | .ok profile => .ok ⟨path, some query, profile⟩
    | .error name => .error (.ofCause (.unknownProfile name))

/-- What the files hold of the weights. The command looks once, so that any time of
change will do. -/
def weights (files : FileSystem) : Weights Float :=
  let file := if files.present defaultWeightsPath then some ⟨0, files defaultWeightsPath⟩ else none
  ((HotWeights.start default).refresh file).current

/-- The lines of the answer. -/
def answer (files : FileSystem) (now : Timestamp) (arguments : Arguments) :
    Checked (Outcome (List String)) := do
  match ← RecordsFile.load files arguments.path with
  | .error failure => return .error (failure.during .loadingRecords)
  | .ok records =>
    let scored := ScoredRecord.rank (← Checked.scoreAll records arguments.profile (weights files) now)
    match arguments.query with
    | none => return .ok (Report.lines (← Metered.execute scored .empty) scored.length)
    | some text =>
      match ← Metered.runText scored text with
      | .ok result => return .ok (Report.lines result scored.length)
      | .error rejection => return .fail .query (.rejection rejection)

def run (files : FileSystem) (now : Timestamp) (arguments : List String) : Checked (Outcome (List String)) :=
  match Arguments.ofList arguments with
  | .error failure => return .error failure
  | .ok arguments => answer files now arguments

end ClipRank.CommandLine
