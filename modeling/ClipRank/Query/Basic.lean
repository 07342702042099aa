import ClipRank.Json.Shape

/-!
Queries over scored records: conditions on fields, an order and a limit.
-/

namespace ClipRank

open Json (Decoder Shape Field)

inductive Operator where
  | eq
  | gt
  | gte
  | lt
  | lte
  | contains
deriving Repr, DecidableEq

namespace Operator

def all : List Operator := [eq, gt, gte, lt, lte, contains]

def name : Operator → String
  | eq => "eq"
  | gt => "gt"
  | gte => "gte"
  | lt => "lt"
  | lte => "lte"
  | contains => "contains"

def ofName? (name : String) : Option Operator :=
  all.find? (·.name = name)

end Operator

/-- The operands for one field. An operator without operand is not checked. -/
structure Condition where
  eq : Option Json
  gt : Option Float
  gte : Option Float
  lt : Option Float
  lte : Option Float
  contains : Option String

namespace Condition

def empty : Condition :=
  ⟨none, none, none, none, none, none⟩

def shape : Shape Condition where
  name := "struct FilterCondition"
  start := empty
  fields := [
    Field.make "eq" .defaultByKey (Decoder.option Decoder.json) fun value held => { held with eq := value },
    Field.make "gt" .defaultByKey Decoder.float.option fun value held => { held with gt := value },
    Field.make "gte" .defaultByKey Decoder.float.option fun value held => { held with gte := value },
    Field.make "lt" .defaultByKey Decoder.float.option fun value held => { held with lt := value },
    Field.make "lte" .defaultByKey Decoder.float.option fun value held => { held with lte := value },
    Field.make "contains" .defaultByKey Decoder.string.option fun value held => { held with contains := value }]

def decoder : Decoder Condition :=
  shape.decoder

/-- The operators that have an operand. -/
def toJson (condition : Condition) : Json :=
  .object <|
    (condition.eq.map ("eq", ·)).toList ++
    (condition.gt.map fun value => ("gt", Json.ofFloat value)).toList ++
    (condition.gte.map fun value => ("gte", Json.ofFloat value)).toList ++
    (condition.lt.map fun value => ("lt", Json.ofFloat value)).toList ++
    (condition.lte.map fun value => ("lte", Json.ofFloat value)).toList ++
    (condition.contains.map fun value => ("contains", Json.string value)).toList

end Condition

structure Filter where
  field : String
  condition : Condition

inductive SortOrder where
  | ascending
  | descending
deriving Repr, DecidableEq

namespace SortOrder

def name : SortOrder → String
  | ascending => "asc"
  | descending => "desc"

def decoder : Decoder SortOrder :=
  Decoder.variant [("asc", ascending), ("desc", descending)]

end SortOrder

structure SortKey where
  field : String
  order : SortOrder

namespace SortKey

def shape : Shape SortKey where
  name := "struct SortSpec"
  start := ⟨"", .ascending⟩
  fields := [
    Field.make "field" .refused Decoder.string fun value held => { held with field := value },
    Field.make "order" .refused SortOrder.decoder fun value held => { held with order := value }]

def decoder : Decoder SortKey :=
  shape.decoder

def toJson (sort : SortKey) : Json :=
  .object [("field", .string sort.field), ("order", .string sort.order.name)]

end SortKey

structure Query where
  /-- In the order in which they were given. -/
  filters : List Filter
  sort : Option SortKey
  /-- At most so many records. -/
  limit : Option Nat
  explanation : Option String

namespace Query

/-- The query that every record answers. -/
def empty : Query :=
  ⟨[], none, none, none⟩

def isEmpty (query : Query) : Bool :=
  query.filters.isEmpty && query.sort.isNone && query.limit.isNone

def filter (query : Query) (field : String) (condition : Condition) : Query :=
  { query with filters := query.filters ++ [⟨field, condition⟩] }

def sortedBy (query : Query) (field : String) (order : SortOrder) : Query :=
  { query with sort := some ⟨field, order⟩ }

/-- A limit of 0 is no limit. -/
def limited (query : Query) (count : Nat) : Query :=
  { query with limit := if 0 < count then some count else none }

end Query

end ClipRank
