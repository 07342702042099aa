import ClipRank.Binary64.Fixed
import ClipRank.Query.Result

/-!
The answer to a query as lines of text.
-/

namespace ClipRank.Report

def padLeft (width : Nat) (text : String) : String :=
  String.ofList (List.replicate (width - text.length) ' ') ++ text

def padRight (width : Nat) (text : String) : String :=
  text ++ String.ofList (List.replicate (width - text.length) ' ')

/-- Score, grade, length, views and title of a record. -/
def line (record : ScoredRecord Float) : String :=
  "  ".intercalate [
    padLeft 5 (Binary64.fixed 1 record.compositeScore),
    padRight 10 record.grade.label ++ " " ++
      padLeft 8 (Duration.clock record.rawMetrics.durationSeconds.toUInt64.toNat),
    padLeft 10 (toString record.rawMetrics.views.toNat) ++ " views",
    record.title]

/-- The explanation, the records, and how many of all they are. -/
def lines (result : QueryResult) (scored : Nat) : List String :=
  result.explanation.toList ++ result.records.map line ++
    [toString result.records.length ++ " of " ++ toString scored ++ " records"]

end ClipRank.Report
