import ClipRank.Query.Basic
import ClipRank.Text.Lowercase

/-!
When a value meets a condition: every operator with an operand has to hold.
-/

namespace ClipRank.Condition

/-- Equality with an operand. Numbers are equal by their doubles. -/
def equals (value operand : Json) : Bool :=
  match value, operand with
  | .number a, .number b => a.toFloat == b.toFloat
  | _, _ => value.equal operand

/-- Whether one list of characters occurs in another without gaps. -/
def occursIn (part whole : List Char) : Bool :=
  part.isPrefixOf whole ||
    match whole with
    | [] => false
    | _ :: rest => occursIn part rest

/-- Whether the operand of an operator on numbers is absent or holds for a value. -/
def numberHolds (holds : Float → Float → Bool) (operand : Option Float) (value : Option Json) : Bool :=
  match operand with
  | none => true
  | some operand =>
    match value.bind Json.toFloat? with
    | some number => holds number operand
    | none => false

def eqHolds (operand value : Option Json) : Bool :=
  match operand, value with
  | none, _ => true
  | some operand, some value => equals value operand
  | some _, none => false

def containsHolds (operand : Option String) (value : Option Json) : Bool :=
  match operand with
  | none => true
  | some part =>
    match value.bind Json.toString? with
    | some whole => occursIn (Text.lowercase part).toList (Text.lowercase whole).toList
    | none => false

def holds (condition : Condition) (value : Option Json) : Bool :=
  eqHolds condition.eq value &&
    numberHolds (fun value bound => Float.lt bound value) condition.gt value &&
    numberHolds (fun value bound => Float.le bound value) condition.gte value &&
    numberHolds (fun value bound => Float.lt value bound) condition.lt value &&
    numberHolds (fun value bound => Float.le value bound) condition.lte value &&
    containsHolds condition.contains value

end ClipRank.Condition
