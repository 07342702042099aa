import Mathlib.Data.List.Induction
import ClipRank.Query.Grammar
import ClipRank.Proofs.NumberText
import ClipRank.Proofs.Outcome

/-! Which operands a filter accepts, and the condition that they come to. An operator
takes the last operand given for it that is not null. -/

namespace ClipRank.Proofs.FilterGrammar
open NumberText Outcome

/-- A number, or a text that denotes a finite one, with blanks around it. -/
inductive Amount : Json → Float → Prop where
  | number {value : Number} : Amount (.number value) value.toFloat
  | text {text bound} (denotes : Denotes (Text.trim text) bound) (finite : bound.isFinite = true) :
      Amount (.string text) bound

inductive Fits : Operator → Json → Prop where
  | absent {operator} : Fits operator .null
  | boolean {value} : Fits .eq (.boolean value)
  | number {value} : Fits .eq (.number value)
  | text {value} : Fits .eq (.string value)
  | part {value} : Fits .contains (.string value)
  | amount {operator operand bound} (ordering : operator ∈ [.gt, .gte, .lt, .lte]) (amount : Amount operand bound) :
      Fits operator operand

def isNull : Json → Bool
  | .null => true
  | _ => false

/-- The operand given for an operator. -/
def operand? (operands : Members) (operator : Operator) : Option Json :=
  ((operands.filter fun member => member.1 = operator.name && !isNull member.2).map (·.2)).getLast?

/-- The bound that an operand sets, if there is an operand. -/
def Bounds (operand : Option Json) (bound : Option Float) : Prop :=
  ∀ value, bound = some value ↔ ∃ given, operand = some given ∧ Amount given value

structure Means (operands : Members) (condition : Condition) : Prop where
  eq : condition.eq = operand? operands .eq
  gt : Bounds (operand? operands .gt) condition.gt
  gte : Bounds (operand? operands .gte) condition.gte
  lt : Bounds (operand? operands .lt) condition.lt
  lte : Bounds (operand? operands .lte) condition.lte
  contains : ∀ text, condition.contains = some text ↔ operand? operands .contains = some (.string text)

theorem bound_iff {operand : Json} {bound : Float} : Query.bound? operand = some bound ↔ Amount operand bound := by
  constructor
  · intro found
    cases operand with
    | number value =>
      rw [Query.bound?, Option.some_inj] at found
      exact found ▸ .number
    | string text =>
      rw [Query.bound?, Option.filter_eq_some_iff] at found
      exact .text (read_iff.mp found.1) found.2
    | null | boolean | array | object =>
      rw [Query.bound?] at found
      · cases found
      all_goals simp
  · intro amount
    cases amount with
    | number => rw [Query.bound?]
    | text denotes finite => rw [Query.bound?, Option.filter_eq_some_iff]; exact ⟨read_iff.mpr denotes, finite⟩

private theorem ofName_iff {name : String} {operator : Operator} :
    Operator.ofName? name = some operator ↔ operator.name = name := by
  constructor
  · intro found
    have named := List.find?_some found
    exact of_decide_eq_true named
  · rintro rfl
    cases operator <;> rfl

theorem name_injective {first second : Operator} : first.name = second.name ↔ first = second := by
  cases first <;> cases second <;> decide

private theorem operand_append (operands : Members) (operator : Operator) (operand : Json) (other : Operator) :
    operand? (operands ++ [(operator.name, operand)]) other =
      if operator = other ∧ isNull operand = false then some operand else operand? operands other := by
  simp only [operand?, List.filter_append, List.map_append, List.filter_cons, List.filter_nil, name_injective]
  split <;> simp_all

/-- The condition that operands come to. -/
private def conditionOf (operands : Members) : Condition where
  eq := operand? operands .eq
  gt := (operand? operands .gt).bind Query.bound?
  gte := (operand? operands .gte).bind Query.bound?
  lt := (operand? operands .lt).bind Query.bound?
  lte := (operand? operands .lte).bind Query.bound?
  contains := (operand? operands .contains).bind Json.toString?

def Accepted (member : String × Json) : Prop :=
  ∃ operator : Operator, operator.name = member.1 ∧ Fits operator member.2

theorem accepted_iff {operator : Operator} {operand : Json} :
    Accepted (operator.name, operand) ↔ Fits operator operand := by
  constructor
  · rintro ⟨other, same, fits⟩
    exact name_injective.mp same ▸ fits
  · exact fun fits => ⟨operator, rfl, fits⟩

/-- The condition after one more operand that is not null. -/
private def setOperand (condition : Condition) (operand : Json) : Operator → Condition
  | .eq => { condition with eq := some operand }
  | .gt => { condition with gt := Query.bound? operand }
  | .gte => { condition with gte := Query.bound? operand }
  | .lt => { condition with lt := Query.bound? operand }
  | .lte => { condition with lte := Query.bound? operand }
  | .contains => { condition with contains := operand.toString? }

private theorem conditionOf_append {operands : Members} {operator : Operator} {operand : Json} :
    conditionOf (operands ++ [(operator.name, operand)]) =
      if isNull operand then conditionOf operands else setOperand (conditionOf operands) operand operator := by
  cases null : isNull operand with
  | true => simp [conditionOf, operand_append, null]
  | false => cases operator <;> simp [conditionOf, operand_append, null, setOperand]

private theorem readOperand_ordering {field : String} {condition : Condition} {operator : Operator} {operand : Json}
    (ordering : operator ∈ [.gt, .gte, .lt, .lte]) (given : isNull operand = false) :
    Query.readOperand field condition (operator.name, operand) =
      if (Query.bound? operand).isSome then .ok (setOperand condition operand operator)
      else .error (.boundNotNumber operator field) := by
  have known : Operator.ofName? operator.name = some operator := ofName_iff.mpr rfl
  simp only [Query.readOperand, known]
  cases operator with
  | eq | contains => simp at ordering
  | gt | gte | lt | lte =>
    cases operand with
    | null => cases given
    | boolean value | number value | string value | array items | object members =>
      dsimp only
      split
      next none => simp [none]
      next bound found => simp [found, setOperand]

private theorem fits_ordering {operator : Operator} {operand : Json} (ordering : operator ∈ [.gt, .gte, .lt, .lte])
    (given : isNull operand = false) : Fits operator operand ↔ (Query.bound? operand).isSome = true := by
  rw [Option.isSome_iff_exists]
  constructor
  · intro fits
    cases fits with
    | absent => cases given
    | boolean | number | text | part => simp at ordering
    | amount _ amount => exact ⟨_, bound_iff.mpr amount⟩
  · rintro ⟨bound, found⟩
    exact .amount ordering (bound_iff.mp found)

/-- One operand is taken just when it fits its operator. -/
private theorem readOperand_iff {field : String} {condition after : Condition} {operator : Operator} {operand : Json} :
    Query.readOperand field condition (operator.name, operand) = .ok after ↔
      Fits operator operand ∧
        after = if isNull operand then condition else setOperand condition operand operator := by
  have known : Operator.ofName? operator.name = some operator := ofName_iff.mpr rfl
  cases null : isNull operand with
  | true =>
    cases operand with
    | null =>
      simp only [Query.readOperand, known, Except.ok.injEq]
      exact ⟨fun same => ⟨.absent, same.symm⟩, fun ⟨_, same⟩ => same.symm⟩
    | boolean | number | string | array | object => cases null
  | false =>
    have taken {result : Condition} (fits : Fits operator operand) :
        (Except.ok result : Except GrammarFault Condition) = .ok after ↔ Fits operator operand ∧ after = result :=
      ⟨fun same => ⟨fits, (Except.ok.inj same).symm⟩, fun ⟨_, same⟩ => congrArg Except.ok same.symm⟩
    have refused {fault : GrammarFault} (misfit : ¬ Fits operator operand) {result : Condition} :
        Except.error fault = .ok after ↔ Fits operator operand ∧ after = result :=
      ⟨fun same => (by cases same), fun ⟨fits, _⟩ => absurd fits misfit⟩
    rw [if_neg Bool.false_ne_true]
    cases operator with
    | eq =>
      simp only [Query.readOperand, known]
      cases operand with
      | null => cases null
      | boolean => exact taken .boolean
      | number => exact taken .number
      | string => exact taken .text
      | array | object =>
        refine refused fun fits => ?_
        cases fits with
        | amount ordering => simp at ordering
    | contains =>
      simp only [Query.readOperand, known]
      cases operand with
      | null => cases null
      | string => exact taken .part
      | boolean | number | array | object =>
        refine refused fun fits => ?_
        cases fits with
        | amount ordering => simp at ordering
    | gt | gte | lt | lte =>
      rw [readOperand_ordering (by decide) null, fits_ordering (by decide) null]
      split
      next some => simp [some, eq_comm]
      next none => simp [none]

private theorem readMember_iff {field : String} {operands : Members} {member : String × Json} {after : Condition} :
    Query.readOperand field (conditionOf operands) member = .ok after ↔
      Accepted member ∧ after = conditionOf (operands ++ [member]) := by
  obtain ⟨name, operand⟩ := member
  cases known : Operator.ofName? name with
  | none =>
    have unknown : ¬ Accepted (name, operand) := by
      rintro ⟨operator, named, _⟩
      rw [ofName_iff.mpr named] at known
      cases known
    simp [Query.readOperand, known, unknown]
  | some operator =>
    obtain rfl := ofName_iff.mp known
    rw [readOperand_iff, accepted_iff, conditionOf_append]

/-- The operands of a filter are read just when all of them are accepted. -/
private theorem operands_iff {field : String} {operands : Members} {condition : Condition} :
    operands.foldlM (Query.readOperand field) Condition.empty = .ok condition ↔
      (∀ member ∈ operands, Accepted member) ∧ condition = conditionOf operands := by
  -- From the end, where the operand stands that counts.
  induction operands using List.reverseRecOn generalizing condition with
  | nil =>
    simp only [List.foldlM_nil, List.not_mem_nil, false_implies, implies_true, true_and]
    exact ⟨fun same => (Except.ok.inj same).symm, fun same => congrArg Except.ok same.symm⟩
  | append_singleton operands member ih =>
    have last : [member].foldlM (Query.readOperand field) (conditionOf operands) =
        Query.readOperand field (conditionOf operands) member := by
      cases found : Query.readOperand field (conditionOf operands) member <;>
        simp [found, bind, Except.bind, pure, Except.pure]
    rw [List.foldlM_append, bind_ok, List.forall_mem_append, List.forall_mem_singleton, and_assoc, ← readMember_iff]
    constructor
    · rintro ⟨before, read, taken⟩
      obtain ⟨accepted, rfl⟩ := ih.mp read
      exact ⟨accepted, last ▸ taken⟩
    · rintro ⟨accepted, taken⟩
      exact ⟨_, ih.mpr ⟨accepted, rfl⟩, last ▸ taken⟩

private theorem bounds_iff {operand : Option Json} {bound : Option Float} :
    Bounds operand bound ↔ bound = operand.bind Query.bound? := by
  rw [Option.ext_iff]
  simp only [Bounds, Option.bind_eq_some_iff, bound_iff]

private theorem toString_iff {operand : Json} {text : String} :
    operand.toString? = some text ↔ operand = .string text := by
  cases operand <;> simp [Json.toString?]

private theorem means_iff {operands : Members} {condition : Condition} :
    Means operands condition ↔ condition = conditionOf operands := by
  have contains : (∀ text, condition.contains = some text ↔ operand? operands .contains = some (.string text)) ↔
      condition.contains = (operand? operands .contains).bind Json.toString? := by
    rw [Option.ext_iff]
    simp only [Option.bind_eq_some_iff, toString_iff, exists_eq_right]
  constructor
  · intro means
    obtain ⟨eq, gt, gte, lt, lte, text⟩ := means
    rw [bounds_iff] at gt gte lt lte
    rw [contains] at text
    cases condition
    simp_all [conditionOf]
  · rintro rfl
    exact ⟨rfl, bounds_iff.mpr rfl, bounds_iff.mpr rfl, bounds_iff.mpr rfl, bounds_iff.mpr rfl, contains.mpr rfl⟩

/-- A member of the filters and the filter that it stands for. -/
inductive FilterFits : String × Json → Filter → Prop where
  | filter {field operands condition} (accepted : ∀ member ∈ operands, Accepted member)
      (means : Means operands condition) : FilterFits (field, .object operands) ⟨field, condition⟩

theorem readFilter_iff {member : String × Json} {filter : Filter} :
    Query.readFilter member = .ok filter ↔ FilterFits member filter := by
  obtain ⟨field, operands⟩ := member
  constructor
  · intro read
    cases operands with
    | object operands =>
      rw [Query.readFilter, bind_ok] at read
      obtain ⟨condition, found, same⟩ := read
      cases same
      obtain ⟨accepted, means⟩ := operands_iff.mp found
      exact .filter accepted (means_iff.mpr means)
    | null | boolean | number | string | array => cases read
  · intro fits
    cases fits with
    | filter accepted means =>
      rw [Query.readFilter, bind_ok]
      exact ⟨_, operands_iff.mpr ⟨accepted, means_iff.mp means⟩, rfl⟩

inductive FilterAccepted : String × Json → Prop where
  | filter {field operands} (accepted : ∀ member ∈ operands, Accepted member) :
      FilterAccepted (field, .object operands)

theorem filterFits_exists {member : String × Json} :
    (∃ filter, FilterFits member filter) ↔ FilterAccepted member := by
  constructor
  · rintro ⟨_, accepted, _⟩
    exact .filter accepted
  · rintro ⟨accepted⟩
    exact ⟨_, .filter accepted (means_iff.mpr rfl)⟩

end ClipRank.Proofs.FilterGrammar
