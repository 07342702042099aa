import ClipRank.Proofs.SignedDoubles
import ClipRank.Query.Order

/-! The comparison of a sort is a total preorder on optional values, in either
direction. Each class of values has a key of its own that is constant on the
other classes, so the whole comparison is lexicographic: first by class, then by
the keys, which a descending sort reads backwards. -/

namespace ClipRank.Proofs.ValueOrder
open Std (TransCmp OrientedCmp ReflCmp LawfulEqCmp)

private def classKey (value : Option Json) : Nat := (ValueClass.of value).position

private def numberKey : Option Json → Int
  | some (.number value) => Binary64.orderKey value.toFloat
  | _ => 0

private def textKey : Option Json → List Char
  | some (.string value) => value.toList
  | _ => []

private def loweredKey : Option Json → List Char
  | some (.string value) => (Text.lowercase value).toList
  | _ => []

private def compareKeys : Option Json → Option Json → Ordering :=
  compareLex (compareOn numberKey) (compareLex (compareOn loweredKey) fun a b => compareOn textKey b a)

private instance : TransCmp compareKeys :=
  inferInstanceAs (TransCmp (compareLex _ (compareLex _ fun a b => compareOn textKey b a)))

private theorem position_injective {a b : ValueClass} (same : a.position = b.position) : a = b := by
  cases a <;> cases b <;> first | rfl | contradiction

private theorem compare_same_class {a b : Option Json} (same : ValueClass.of a = ValueClass.of b) :
    compareValues a b = compareKeys a b := by
  rcases a with _ | (_ | _ | _ | _ | _ | _) <;> rcases b with _ | (_ | _ | _ | _ | _ | _)
  all_goals first
    | contradiction
    | simp [compareValues, compareLex, compareOn, compareKeys, numberKey, textKey, loweredKey,
        ValueClass.of, Binary64.totalOrder, compareText]

private theorem compare_other_class {a b : Option Json} (differ : ValueClass.of a ≠ ValueClass.of b) :
    compareValues a b = compareOn classKey a b := by
  rcases a with _ | (_ | _ | _ | _ | _ | _) <;> rcases b with _ | (_ | _ | _ | _ | _ | _)
  all_goals first
    | exact absurd rfl differ
    | rfl

private theorem classes_differ {a b : Option Json} (differ : ValueClass.of a ≠ ValueClass.of b) :
    compareOn classKey a b ≠ .eq := by
  intro tie
  exact differ (position_injective (Nat.compare_eq_eq.mp tie))

/-- Either direction compares classes the same way and keys in its own. -/
private theorem compareBy_eq (order : SortOrder) :
    order.compareBy = compareLex (compareOn classKey) fun a b =>
      match order with
      | .ascending => compareKeys a b
      | .descending => compareKeys b a := by
  funext a b
  by_cases same : ValueClass.of a = ValueClass.of b
  · have tie : compareOn classKey a b = .eq := by
      simp only [compareOn, classKey, same]
      exact Nat.compare_eq_eq.mpr rfl
    cases order with
    | ascending => simp only [SortOrder.compareBy, compareLex, tie, compare_same_class same, Ordering.eq_then]
    | descending =>
      simp only [SortOrder.compareBy, compareLex, tie, same, compare_same_class same, Ordering.eq_then, if_true]
      exact OrientedCmp.eq_swap.symm
  · have decided := classes_differ same
    have kept : ∀ other, (compareOn classKey a b).then other = compareOn classKey a b := by
      intro other
      cases found : compareOn classKey a b <;> first | rfl | exact absurd found decided
    cases order with
    | ascending => simp only [SortOrder.compareBy, compareLex, kept, compare_other_class same]
    | descending => simp only [SortOrder.compareBy, compareLex, kept, compare_other_class same, same, if_false]

instance totalOrder_trans : TransCmp Binary64.totalOrder :=
  inferInstanceAs (TransCmp (compareOn Binary64.orderKey))

/-- The comparison of a ranking by a score, the largest first. -/
def bestFirst {α : Type} (score : α → Float) (first second : α) : Ordering :=
  Binary64.totalOrder (score second) (score first)

instance bestFirst_trans {α : Type} (score : α → Float) : TransCmp (bestFirst score) where
  eq_swap := totalOrder_trans.eq_swap
  isLE_trans := fun first second => totalOrder_trans.isLE_trans second first

instance compareText_trans : TransCmp compareText :=
  inferInstanceAs (TransCmp (compareLex (compareOn fun text => (Text.lowercase text).toList)
    fun a b => compareOn String.toList b a))

/-- Reflexive, antisymmetric up to ties, and transitive: what a stable sort needs. -/
theorem compareBy_trans (order : SortOrder) : TransCmp order.compareBy := by
  rw [compareBy_eq]
  cases order with
  | ascending => exact inferInstanceAs (TransCmp (compareLex (compareOn classKey) compareKeys))
  | descending => exact inferInstanceAs (TransCmp (compareLex (compareOn classKey) fun a b => compareKeys b a))

/-- Neither a number nor a text: what a sort leaves at the end. -/
def Uncompared (value : Option Json) : Prop :=
  (∀ number, value ≠ some (.number number)) ∧ ∀ text, value ≠ some (.string text)

/-- What ties in a sort. Numbers tie if they are read as one double, and the zeros of
either sign are two doubles. -/
inductive Tied : Option Json → Option Json → Prop
  | numbers {x y : Number} (same : x.toFloat = y.toFloat) : Tied (some (.number x)) (some (.number y))
  | texts (text : String) : Tied (some (.string text)) (some (.string text))
  | others {a b : Option Json} (first : Uncompared a) (second : Uncompared b) : Tied a b

theorem uncompared_iff (value : Option Json) : Uncompared value ↔ ValueClass.of value = .other := by
  constructor
  · intro ⟨noNumber, noText⟩
    rcases value with _ | (_ | _ | number | text | _ | _)
    case some.number => exact absurd rfl (noNumber number)
    case some.string => exact absurd rfl (noText text)
    all_goals rfl
  · intro rest
    refine ⟨fun number same => ?_, fun text same => ?_⟩
    all_goals
      subst same
      cases rest

instance totalOrder_lawful : LawfulEqCmp Binary64.totalOrder where
  compare_self := ReflCmp.compare_self
  eq_of_compare tie := SignedDoubles.orderKey_injective (Std.compare_eq_iff_eq.mp tie)

instance compareText_lawful : LawfulEqCmp compareText where
  compare_self := ReflCmp.compare_self
  eq_of_compare tie := (String.toList_inj.mp (Std.compare_eq_iff_eq.mp (Ordering.then_eq_eq.mp tie).2)).symm

private theorem keys_tie (a b : Option Json) :
    compareKeys a b = .eq ↔ numberKey a = numberKey b ∧ loweredKey a = loweredKey b ∧ textKey b = textKey a := by
  simp only [compareKeys, compareLex, compareOn, Ordering.then_eq_eq, Std.compare_eq_iff_eq]

private theorem tie_iff (order : SortOrder) (a b : Option Json) :
    order.compareBy a b = .eq ↔ ValueClass.of a = ValueClass.of b ∧ compareKeys a b = .eq := by
  have classes : compareOn classKey a b = .eq ↔ ValueClass.of a = ValueClass.of b :=
    Nat.compare_eq_eq.trans ⟨position_injective, congrArg ValueClass.position⟩
  rw [compareBy_eq]
  cases order with
  | ascending => exact Ordering.then_eq_eq.trans (and_congr_left' classes)
  | descending =>
    have swapped : compareKeys b a = .eq ↔ compareKeys a b = .eq := OrientedCmp.eq_comm
    exact Ordering.then_eq_eq.trans (and_congr classes swapped)

private theorem tied_iff (a b : Option Json) :
    (ValueClass.of a = ValueClass.of b ∧ compareKeys a b = .eq) ↔ Tied a b := by
  rw [keys_tie]
  constructor
  · intro ⟨sameClass, number, _, text⟩
    by_cases rest : ValueClass.of a = .other
    · exact .others ((uncompared_iff a).mpr rest) ((uncompared_iff b).mpr (sameClass ▸ rest))
    · rcases a with _ | (_ | _ | x | first | _ | _) <;> try exact absurd rfl rest
      all_goals
        rcases b with _ | (_ | _ | y | second | _ | _) <;> try cases sameClass
      · exact .numbers (SignedDoubles.orderKey_injective number)
      · obtain rfl : second = first := String.toList_inj.mp text
        exact .texts second
  · intro tied
    cases tied with
    | numbers same =>
      have keys : Binary64.orderKey _ = Binary64.orderKey _ := congrArg Binary64.orderKey same
      exact ⟨rfl, keys, rfl, rfl⟩
    | texts text => exact ⟨rfl, rfl, rfl, rfl⟩
    | others first second =>
      rw [uncompared_iff] at first second
      refine ⟨first.trans second.symm, ?_⟩
      rcases a with _ | (_ | _ | _ | _ | _ | _) <;> rcases b with _ | (_ | _ | _ | _ | _ | _)
      all_goals first | cases first; done | cases second; done | exact ⟨rfl, rfl, rfl⟩

/-- The ties of a sort, which are the same in both directions. -/
theorem compareBy_eq_iff (order : SortOrder) (a b : Option Json) : order.compareBy a b = .eq ↔ Tied a b :=
  (tie_iff order a b).trans (tied_iff a b)

theorem earlier_class (order : SortOrder) {a b : Option Json}
    (earlier : (ValueClass.of a).position < (ValueClass.of b).position) : order.compareBy a b = .lt := by
  have classes : compareOn classKey a b = .lt := Nat.compare_eq_lt.mpr earlier
  rw [compareBy_eq]
  exact Ordering.then_eq_lt.mpr (Or.inl classes)

/-- Both directions are total preorders on values and their absence, with the same
ties, and keep the numbers before the texts and both before all else. -/
theorem compareBy_preorder (order : SortOrder) :
    (∀ a, order.compareBy a a = .eq) ∧
    (∀ a b, order.compareBy b a = (order.compareBy a b).swap) ∧
    (∀ a b c, order.compareBy a b ≠ .gt → order.compareBy b c ≠ .gt → order.compareBy a c ≠ .gt) ∧
    (∀ a b, order.compareBy a b = .eq ↔ Tied a b) ∧
    (∀ number text, order.compareBy (some (.number number)) (some (.string text)) = .lt) ∧
    (∀ number rest, Uncompared rest → order.compareBy (some (.number number)) rest = .lt) ∧
    ∀ text rest, Uncompared rest → order.compareBy (some (.string text)) rest = .lt := by
  have lawful : TransCmp order.compareBy := compareBy_trans order
  refine ⟨fun a => ReflCmp.compare_self, fun a b => OrientedCmp.eq_swap, ?_, compareBy_eq_iff order, ?_, ?_, ?_⟩
  · intro a b c first second
    apply Ordering.ne_gt_iff_isLE.mpr
    exact TransCmp.isLE_trans (Ordering.ne_gt_iff_isLE.mp first) (Ordering.ne_gt_iff_isLE.mp second)
  · intro number text
    exact earlier_class order (Nat.lt_succ_self 0)
  · intro number rest uncompared
    rw [uncompared_iff] at uncompared
    apply earlier_class order
    rw [uncompared]
    exact Nat.zero_lt_two
  · intro text rest uncompared
    rw [uncompared_iff] at uncompared
    apply earlier_class order
    rw [uncompared]
    exact Nat.lt_succ_self 1

end ClipRank.Proofs.ValueOrder
