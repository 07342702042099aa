import ClipRank.Query.Path
import ClipRank.Query.Order
import ClipRank.Query.Condition
import ClipRank.ScoredRecord.Json

/-!
The answer to a query: the records whose view meets every filter, in the order of
the sort and no more than the limit. Ties keep the order of the records.
-/

namespace ClipRank

structure QueryResult where
  records : List (ScoredRecord Float)
  /-- The records that met the filters, before the limit. -/
  total : Nat
  explanation : Option String

namespace QueryResult

def toJson (result : QueryResult) : Json :=
  .object <|
    [("records", .array (result.records.map ScoredRecord.toJson)), ("total", .ofNat result.total)] ++
    (result.explanation.map fun text => ("explanation", Json.string text)).toList

end QueryResult

namespace Query

/-- What is said when no record answers. -/
def noMatches : String := "No records match this query."

/-- Whether the view of a record meets every filter. -/
def admits (query : Query) (view : Json) : Bool :=
  query.filters.all fun filter => filter.condition.holds (Path.resolve? view filter.field)

/-- Whether one view may stand before another. -/
def inOrder (sort : SortKey) (first second : Json) : Bool :=
  (sort.order.compareBy (Path.resolve? first sort.field) (Path.resolve? second sort.field)).isLE

/-- The explanation of an answer. An empty one says so. -/
def explain (query : Query) (isEmpty : Bool) : Option String :=
  if isEmpty then
    some <| match query.explanation with
      | some text => noMatches ++ " (" ++ text ++ ")"
      | none => noMatches
  else query.explanation

def execute (records : List (ScoredRecord Float)) (query : Query) : QueryResult :=
  let rows := records.map fun record => (record, record.toJson)
  let matching := rows.filter fun row => query.admits row.2
  let sorted := match query.sort with
    | none => matching
    | some sort => matching.mergeSort fun first second => inOrder sort first.2 second.2
  let limited := match query.limit with
    | none => sorted
    | some count => sorted.take count
  { records := limited.map (·.1)
    total := matching.length
    explanation := query.explain limited.isEmpty }

end Query

end ClipRank
