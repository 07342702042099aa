import ClipRank.Query.Basic
import ClipRank.Binary64.Numeral

/-!
The grammar of queries: which JSON values are queries, and what is wrong with the
others. Unknown keys, and limits and explanations that make no sense, are passed
over; filters and sorts have to be well formed.
-/

namespace ClipRank

/-- Why a value is no query. -/
inductive GrammarFault where
  | notAnObject
  | filtersNotAnObject
  | filterNotAnObject (field : String)
  | unknownOperator (operator field : String)
  | eqNotScalar (field : String)
  | containsNotText (field : String)
  | boundNotNumber (operator : Operator) (field : String)
  | sortNotAnObject
  | sortFieldMissing
  | sortOrderMissing
  | sortOrderUnknown (order : String)

namespace GrammarFault

def message : GrammarFault → String
  | notAnObject => "expected a JSON object at the top level"
  | filtersNotAnObject => "`filters` must be an object"
  | filterNotAnObject field => "filter for `" ++ field ++ "` must be an object of operators"
  | unknownOperator operator field => "unsupported operator `" ++ operator ++ "` on `" ++ field ++ "`"
  | eqNotScalar field => "`eq` on `" ++ field ++ "` must be a string, number or boolean"
  | containsNotText field => "`contains` on `" ++ field ++ "` must be a string"
  | boundNotNumber operator field => "`" ++ operator.name ++ "` on `" ++ field ++ "` must be a number"
  | sortNotAnObject => "`sort` must be an object"
  | sortFieldMissing => "`sort.field` must be a non-empty string"
  | sortOrderMissing => "`sort.order` must be \"asc\" or \"desc\""
  | sortOrderUnknown order => "`sort.order` must be \"asc\" or \"desc\", got \"" ++ order ++ "\""

end GrammarFault

namespace Query

/-- A bound: a number, or a text of a finite one. -/
def bound? : Json → Option Float
  | .number value => some value.toFloat
  | .string text => (Binary64.read? (Text.trim text)).filter Float.isFinite
  | _ => none

/-- A text without the blanks around it, unless nothing is left. -/
def nonBlank? (value : Json) : Option String :=
  match value with
  | .string text =>
    let text := Text.trim text
    if text = "" then none else some text
  | _ => none

/-- Takes one operator of a filter into its condition. A null operand is as good as
none. -/
def readOperand (field : String) (condition : Condition) :
    String × Json → Except GrammarFault Condition
  | (name, operand) =>
    match Operator.ofName? name with
    | none => .error (.unknownOperator name field)
    | some operator =>
      match operand, operator with
      | .null, _ => .ok condition
      | .array _, .eq | .object _, .eq => .error (.eqNotScalar field)
      | operand, .eq => .ok { condition with eq := some operand }
      | .string text, .contains => .ok { condition with contains := some text }
      | _, .contains => .error (.containsNotText field)
      | operand, operator =>
        match bound? operand with
        | none => .error (.boundNotNumber operator field)
        | some bound => .ok <|
          match operator with
          | .gt => { condition with gt := some bound }
          | .gte => { condition with gte := some bound }
          | .lt => { condition with lt := some bound }
          | _ => { condition with lte := some bound }

def readFilter : String × Json → Except GrammarFault Filter
  | (field, .object operands) => do
    return ⟨field, ← operands.foldlM (readOperand field) Condition.empty⟩
  | (field, _) => .error (.filterNotAnObject field)

def readFilters : Option Json → Except GrammarFault (List Filter)
  | none | some .null => .ok []
  | some (.object members) => members.mapM readFilter
  | some _ => .error .filtersNotAnObject

def readSort : Option Json → Except GrammarFault (Option SortKey)
  | none | some .null => .ok none
  | some (.object members) =>
    match (Members.get? members "field").bind nonBlank? with
    | none => .error .sortFieldMissing
    | some field =>
      match Members.get? members "order" with
      | some (.string order) =>
        if order = "asc" then .ok (some ⟨field, .ascending⟩)
        else if order = "desc" then .ok (some ⟨field, .descending⟩)
        else .error (.sortOrderUnknown order)
      | _ => .error .sortOrderMissing
  | some _ => .error .sortNotAnObject

/-- A limit is a whole number from 1 on. A double of `2 ^ 64` is taken for the
largest word. -/
def limit? : Json → Option Nat
  | .number (.unsigned value) => if value = 0 then none else some value.toNat
  | .number number =>
    let value := number.toFloat
    if Float.le 1.0 value && Float.le value 18446744073709551616.0 && Binary64.isWhole value then
      some value.toUInt64.toNat
    else none
  | _ => none

def ofJson : Json → Except GrammarFault Query
  | .object members => do
    let filters ← readFilters (Members.get? members "filters")
    let sort ← readSort (Members.get? members "sort")
    return {
      filters, sort
      limit := (Members.get? members "limit").bind limit?
      explanation := (Members.get? members "explanation").bind nonBlank? }
  | _ => .error .notAnObject

/-- A query as JSON. Parts that are absent are left out. -/
def toJson (query : Query) : Json :=
  .object <|
    (if query.filters.isEmpty then []
      else [("filters", Json.object (query.filters.map fun filter => (filter.field, filter.condition.toJson)))]) ++
    (query.sort.map fun sort => ("sort", sort.toJson)).toList ++
    (query.limit.map fun limit => ("limit", Json.ofNat limit)).toList ++
    (query.explanation.map fun text => ("explanation", Json.string text)).toList

end Query

end ClipRank
