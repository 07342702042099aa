import ClipRank.Proofs.SignedDoubles
import ClipRank.Proofs.ValueOrder
import ClipRank.Query.Condition
import ClipRank.Query.Grammar

/-! Filters and sorts on numbers. A filter compares the values of two doubles and a sort
their patterns, and both come to the same, except that the zeros of either sign are one
value with two patterns. -/

namespace ClipRank.Proofs.NumberFilters
open DoubleValue SignedDoubles

section Operators

def operatorHolds (condition : Condition) (value : Option Json) : Operator → Bool
  | .eq => Condition.eqHolds condition.eq value
  | .gt => Condition.numberHolds (fun value bound => Float.lt bound value) condition.gt value
  | .gte => Condition.numberHolds (fun value bound => Float.le bound value) condition.gte value
  | .lt => Condition.numberHolds (fun value bound => Float.lt value bound) condition.lt value
  | .lte => Condition.numberHolds (fun value bound => Float.le value bound) condition.lte value
  | .contains => Condition.containsHolds condition.contains value

/-- A condition without its operators but one. -/
def alone (condition : Condition) : Operator → Condition
  | .eq => { Condition.empty with eq := condition.eq }
  | .gt => { Condition.empty with gt := condition.gt }
  | .gte => { Condition.empty with gte := condition.gte }
  | .lt => { Condition.empty with lt := condition.lt }
  | .lte => { Condition.empty with lte := condition.lte }
  | .contains => { Condition.empty with contains := condition.contains }

private theorem holds_iff (condition : Condition) (value : Option Json) :
    condition.holds value = true ↔ ∀ operator, operatorHolds condition value operator = true := by
  simp only [Condition.holds, Bool.and_eq_true]
  constructor
  · rintro ⟨⟨⟨⟨⟨eq, gt⟩, gte⟩, lt⟩, lte⟩, contains⟩ operator
    cases operator <;> assumption
  · intro each
    exact ⟨⟨⟨⟨⟨each .eq, each .gt⟩, each .gte⟩, each .lt⟩, each .lte⟩, each .contains⟩

private theorem alone_holds (condition : Condition) (value : Option Json) (operator : Operator) :
    (alone condition operator).holds value = operatorHolds condition value operator := by
  have nothing (holds : Float → Float → Bool) : Condition.numberHolds holds none value = true := rfl
  cases operator <;>
    simp [alone, operatorHolds, Condition.holds, Condition.empty, Condition.eqHolds, Condition.containsHolds, nothing]

/-- The condition with one operator that compares with a number. -/
def comparing (operator : Operator) (number : Number) : Condition :=
  alone ⟨some (.number number), some number.toFloat, some number.toFloat, some number.toFloat,
    some number.toFloat, none⟩ operator

/-- The outcomes of a comparison that an operator on numbers passes through. -/
def passes : Operator → Ordering → Bool
  | .eq => Ordering.isEq
  | .gt => Ordering.isGT
  | .gte => Ordering.isGE
  | .lt => Ordering.isLT
  | .lte => Ordering.isLE
  | .contains => fun _ => true

variable {value operand : Number} {p q : ℚ}

private theorem comparing_holds (found : value? value.toFloat = some p) (other : value? operand.toFloat = some q)
    (operator : Operator) :
    (comparing operator operand).holds (some (.number value)) = passes operator (compare p q) := by
  rw [comparing, alone_holds, Bool.eq_iff_iff]
  cases operator with
  | eq => exact (beq_iff found other).trans (Ordering.isEq_iff_eq_eq.trans compare_eq_iff_eq).symm
  | gt => exact (lt_iff other found).trans (Ordering.isGT_iff_eq_gt.trans compare_gt_iff_gt).symm
  | gte => exact (le_iff other found).trans Std.LawfulLECmp.isGE_iff_ge.symm
  | lt => exact (lt_iff found other).trans (Ordering.isLT_iff_eq_lt.trans compare_lt_iff_lt).symm
  | lte => exact (le_iff found other).trans Std.LawfulBCmp.isLE_iff_le.symm
  | contains => exact Iff.rfl

end Operators

section Zeros
variable {x y : Float} {p q : ℚ}

/-- The two zeros. They have one value, and the negative one has the smaller pattern. -/
inductive ZerosApart : Float → Float → Prop
  | rising : ZerosApart (-0.0) 0.0
  | falling : ZerosApart 0.0 (-0.0)

private theorem value_negative_zero : value? (-0.0) = some 0 :=
  rfl

private theorem ZerosApart.values (apart : ZerosApart x y) : value? x = some 0 ∧ value? y = some 0 := by
  cases apart with
  | rising => exact ⟨value_negative_zero, WholeDoubles.value_zero⟩
  | falling => exact ⟨WholeDoubles.value_zero, value_negative_zero⟩

private theorem ZerosApart.ordered (apart : ZerosApart x y) : Binary64.totalOrder x y ≠ .eq := by
  cases apart <;> decide

/-- A value that goes with both signs is a zero, and each sign has one. -/
private theorem zeros_of_signs (first : value? x = some p) (second : value? y = some p) (positive : Positive x)
    (negative : WholeDoubles.Signed .negative y.toModel.unpack) : x = 0.0 ∧ y = -0.0 := by
  obtain rfl : p = 0 := le_antisymm (nonpos_of_negative second negative) (nonneg_of_positive first positive)
  exact ⟨eq_of_signed first WholeDoubles.value_zero positive rfl, eq_of_signed second value_negative_zero negative rfl⟩

private theorem eq_or_apart (first : value? x = some p) (second : value? y = some p) : x = y ∨ ZerosApart x y := by
  obtain ⟨sign, signed⟩ := exists_sign first
  obtain ⟨otherSign, otherSigned⟩ := exists_sign second
  -- Value and sign fix the pattern, so two patterns of one value differ by the sign only.
  cases sign with
  | positive =>
    cases otherSign with
    | positive => exact Or.inl (eq_of_signed first second signed otherSigned)
    | negative =>
      obtain ⟨rfl, rfl⟩ := zeros_of_signs first second signed otherSigned
      exact Or.inr .falling
  | negative =>
    cases otherSign with
    | positive =>
      obtain ⟨rfl, rfl⟩ := zeros_of_signs second first otherSigned signed
      exact Or.inr .rising
    | negative => exact Or.inl (eq_of_signed first second signed otherSigned)

/-- The order of a sort is that of the values, but for the two zeros. -/
private theorem totalOrder_iff (first : value? x = some p) (second : value? y = some q) :
    Binary64.totalOrder x y = compare p q ↔ ¬ ZerosApart x y := by
  have zeros (apart : ZerosApart x y) : p = q := by
    obtain ⟨zero, otherZero⟩ := apart.values
    exact Option.some.inj (first.symm.trans (zero.trans (otherZero.symm.trans second)))
  rcases lt_trichotomy p q with less | rfl | more
  · have below := compare_lt_iff_lt.mpr (orderKey_mono first second less)
    exact iff_of_true (below.trans (compare_lt_iff_lt.mpr less).symm) fun apart => less.ne (zeros apart)
  · rw [compare_eq_iff_eq.mpr rfl]
    refine ⟨fun tie apart => apart.ordered tie, fun together => ?_⟩
    obtain rfl := (eq_or_apart first second).resolve_right together
    exact compare_eq_iff_eq.mpr rfl
  · have above := compare_gt_iff_gt.mpr (orderKey_mono second first more)
    exact iff_of_true (above.trans (compare_gt_iff_gt.mpr more).symm) fun apart => more.ne' (zeros apart)

end Zeros

/-- The operator that asks for an outcome of a comparison. -/
def asking : Ordering → Operator
  | .lt => .lt
  | .eq => .eq
  | .gt => .gt

private theorem passes_asking (outcome reported : Ordering) : passes (asking outcome) reported = true ↔ outcome = reported := by
  cases outcome <;> cases reported <;> decide

private theorem passes_either (reported : Ordering) :
    (passes .lte reported = true ↔ passes .lt reported = true ∨ passes .eq reported = true) ∧
      (passes .gte reported = true ↔ passes .gt reported = true ∨ passes .eq reported = true) := by
  cases reported <;> decide

private theorem comparing_other {value : Option Json} (other : ∀ number, value ≠ some (.number number))
    (operator : Operator) (ordering : operator ∈ [Operator.gt, .gte, .lt, .lte]) (operand : Number) :
    (comparing operator operand).holds value = false := by
  have missing : value.bind Json.toFloat? = none := by
    rcases value with _ | (_ | _ | number | _ | _ | _) <;> first | rfl | exact absurd rfl (other number)
  have fails (holds : Float → Float → Bool) (bound : Float) : Condition.numberHolds holds (some bound) value = false := by
    simp only [Condition.numberHolds, missing]
  rw [comparing, alone_holds]
  cases operator with
  | gt | gte | lt | lte => simp only [operatorHolds, fails]
  | eq | contains => simp at ordering

private theorem comparing_read (field : String) (operator : Operator) (ordering : operator ≠ .contains) (operand : Number) :
    Query.readOperand field Condition.empty (operator.name, .number operand) = .ok (comparing operator operand) := by
  cases operator with
  | contains => exact absurd rfl ordering
  | eq | gt | gte | lt | lte => rfl

/-- Of two numbers just one of `lt`, `eq` and `gt` holds, and it is the one that a sort
reports unless the two are the zeros of either sign. The operators that two outcomes pass
hold if one of the two does, and a condition holds if each of its operators does by itself.
A value that is no number meets no bound. -/
theorem filters_agree_with_sorts (value operand : Number)
    (finite : value.toFloat.isFinite = true) (otherFinite : operand.toFloat.isFinite = true) :
    let matched (operator : Operator) := (comparing operator operand).holds (some (.number value)) = true
    (∀ field (operator : Operator), operator ≠ .contains →
      Query.readOperand field Condition.empty (operator.name, .number operand) = .ok (comparing operator operand)) ∧
    (∃! outcome, matched (asking outcome)) ∧
    (matched (asking (compareValues (some (.number value)) (some (.number operand)))) ↔
      ¬ ZerosApart value.toFloat operand.toFloat) ∧
    (matched .lte ↔ matched .lt ∨ matched .eq) ∧
    (matched .gte ↔ matched .gt ∨ matched .eq) ∧
    (∀ (condition : Condition) (value : Option Json),
      condition.holds value = true ↔ ∀ operator, (alone condition operator).holds value = true) ∧
    ∀ value : Option Json, (∀ number, value ≠ some (.number number)) →
      ∀ operator ∈ [Operator.gt, .gte, .lt, .lte], (comparing operator operand).holds value = false := by
  obtain ⟨p, found⟩ := Option.isSome_iff_exists.mp ((value_isSome value.toFloat).trans finite)
  obtain ⟨q, other⟩ := Option.isSome_iff_exists.mp ((value_isSome operand.toFloat).trans otherFinite)
  obtain ⟨atMost, atLeast⟩ := passes_either (compare p q)
  simp only [comparing_holds found other, passes_asking]
  refine ⟨fun field operator ordering => comparing_read field operator ordering operand,
    ⟨compare p q, rfl, fun _ same => same⟩, totalOrder_iff found other, atMost, atLeast,
    fun condition value => ?_, fun _ missing operator ordering => comparing_other missing operator ordering operand⟩
  simp only [alone_holds]
  exact holds_iff condition value

theorem fraction_below_three :
    (Number.real 2.5).toFloat.isFinite = true ∧ (Number.unsigned 3).toFloat.isFinite = true ∧
      Query.readOperand "days" Condition.empty ("lt", .number (.unsigned 3)) = .ok (comparing .lt (.unsigned 3)) ∧
      (∃! outcome, (comparing (asking outcome) (.unsigned 3)).holds (some (.number (.real 2.5))) = true) ∧
      (comparing .lt (.unsigned 3)).holds (some (.number (.real 2.5))) = true ∧
      (comparing .gte (.unsigned 3)).holds (some (.string "4")) = false := by
  have finite : (Number.real 2.5).toFloat.isFinite = true := by decide
  have otherFinite : (Number.unsigned 3).toFloat.isFinite = true := by decide
  obtain ⟨read, one, agreed, _, _, _, others⟩ := filters_agree_with_sorts _ _ finite otherFinite
  have together : ¬ ZerosApart (2.5 : Float) (Number.unsigned 3).toFloat := by
    intro apart
    have zero : ((2.5 : Float) == 0.0) = true := (beq_iff apart.values.1 WholeDoubles.value_zero).mpr rfl
    exact absurd zero (by decide)
  exact ⟨finite, otherFinite, read "days" .lt (by decide), one, agreed.mpr together,
    others (some (.string "4")) (fun _ => nofun) .gte (by decide)⟩

/-- A filter takes a negative zero for a zero, and a sort puts it below. -/
theorem negative_zero_sorted_below :
    (comparing .eq (.unsigned 0)).holds (some (.number (.real (-0.0)))) = true ∧
      compareValues (some (.number (.real (-0.0)))) (some (.number (.unsigned 0))) = .lt :=
  ⟨by decide, by decide⟩

end ClipRank.Proofs.NumberFilters
