import ClipRank.Proofs.QueryStages

/-! The two directions of a sort. Each of them keeps the classes of values in one order, and
within a class of values that can be compared no two different values tie. So such a class
has one order, which the other direction reverses, and only the values that cannot be
compared stay where they are. -/

namespace ClipRank.Proofs.MirroredSorts
open Std (OrientedCmp LawfulEqCmp)
open QueryStages StableSort ValueOrder

variable {β : Type}

/-- The value by which a record is sorted. -/
def sortValue (field : String) (record : ScoredRecord Float) : Option Json :=
  Path.resolve? record.toJson field

/-- What can be read of the values by which records are sorted, in the order of the records. -/
def readings (read : Json → Option β) (field : String) (records : List (ScoredRecord Float)) : List β :=
  records.filterMap fun record => (sortValue field record).bind read

/-- The records with neither a number nor a text to be sorted by. -/
def rest (field : String) (records : List (ScoredRecord Float)) : List (ScoredRecord Float) :=
  records.filter fun record => ValueClass.of (sortValue field record) = .other

section Reading
variable {compare : β → β → Ordering} {read : Json → Option β}

/-- The values that are read are one class, and compare as what is read of them. -/
def Reading (compare : β → β → Ordering) (read : Json → Option β) : Prop :=
  ∀ {a b : Option Json} {x y : β}, a.bind read = some x → b.bind read = some y →
    ValueClass.of a = ValueClass.of b ∧ compareValues a b = compare x y

theorem number_reading : Reading Binary64.totalOrder Json.toFloat? := by
  have number {value : Option Json} {x : Float} (found : value.bind Json.toFloat? = some x) :
      ∃ number : Number, value = some (.number number) ∧ number.toFloat = x := by
    rcases value with _ | (_ | _ | number | _ | _ | _) <;> cases found
    exact ⟨number, rfl, rfl⟩
  intro a b x y first second
  obtain ⟨_, rfl, rfl⟩ := number first
  obtain ⟨_, rfl, rfl⟩ := number second
  exact ⟨rfl, rfl⟩

theorem text_reading : Reading compareText Json.toString? := by
  have text {value : Option Json} {x : String} (found : value.bind Json.toString? = some x) :
      value = some (.string x) := by
    rcases value with _ | (_ | _ | _ | text | _ | _) <;> cases found
    rfl
  intro a b x y first second
  obtain rfl := text first
  obtain rfl := text second
  exact ⟨rfl, rfl⟩

/-- The comparison that a direction makes. -/
def turned (compare : β → β → Ordering) : SortOrder → β → β → Ordering
  | .ascending => compare
  | .descending => fun x y => compare y x

private theorem Reading.compareBy [OrientedCmp compare] (reading : Reading compare read) (order : SortOrder)
    {a b : Option Json} {x y : β} (first : a.bind read = some x) (second : b.bind read = some y) :
    order.compareBy a b = turned compare order x y := by
  obtain ⟨same, compared⟩ := reading first second
  cases order with
  | ascending => exact compared
  | descending =>
    calc SortOrder.descending.compareBy a b = (compareValues a b).swap := if_pos same
      _ = (compare x y).swap := by rw [compared]
      _ = compare y x := OrientedCmp.eq_swap.symm

variable (field : String) (records : List (ScoredRecord Float))

private theorem Reading.sorted [OrientedCmp compare] (reading : Reading compare read) (order : SortOrder) :
    (readings read field (arrange (some ⟨field, order⟩) records)).Pairwise fun x y =>
      (turned compare order x y).isLE = true := by
  refine List.pairwise_filterMap.mpr ((mergeSort_sorted records).imp ?_)
  intro first second below x found y other
  rw [← reading.compareBy order found other]
  exact below

/-- Sorted one way and the other, what is read is one list and its reverse. -/
theorem Reading.mirrored [OrientedCmp compare] [LawfulEqCmp compare] (reading : Reading compare read) :
    readings read field (arrange (some ⟨field, .descending⟩) records) =
      (readings read field (arrange (some ⟨field, .ascending⟩) records)).reverse := by
  have rising := reading.sorted field records .ascending
  have falling := List.pairwise_reverse.mpr (reading.sorted field records .descending)
  have permuted : (arrange (some ⟨field, .descending⟩) records).Perm (arrange (some ⟨field, .ascending⟩) records) :=
    (arrange_perm _ _).trans (arrange_perm _ _).symm
  have same := (List.reverse_perm _).trans (permuted.filterMap fun record => (sortValue field record).bind read)
  -- The same readings, sorted by one comparison in which no two of them tie, have one order.
  rw [← List.reverse_eq_iff]
  refine same.eq_of_pairwise ?_ falling rising
  intro x y _ _ below above
  exact LawfulEqCmp.eq_of_compare (OrientedCmp.isLE_antisymm below above)

end Reading

section Classes
variable (field : String) (order : SortOrder) (records : List (ScoredRecord Float))

/-- Either direction keeps the classes in their order. -/
theorem classes_sorted : (arrange (some ⟨field, order⟩) records).Pairwise fun first second =>
    (ValueClass.of (sortValue field first)).position ≤ (ValueClass.of (sortValue field second)).position := by
  have lawful : OrientedCmp order.compareBy := (compareBy_trans order).toOrientedCmp
  refine (mergeSort_sorted records).imp ?_
  intro first second below
  refine Nat.le_of_not_lt fun earlier => ?_
  have backward : order.compareBy (sortValue field second) (sortValue field first) = .lt := earlier_class order earlier
  have forward : order.compareBy (sortValue field first) (sortValue field second) = .gt := by
    rw [lawful.eq_swap, backward]
    rfl
  exact Ordering.ne_gt_iff_isLE.mpr below forward

/-- Values that cannot be compared tie, so their records stay in the order in which they came. -/
theorem rest_unmoved : rest field (arrange (some ⟨field, order⟩) records) = rest field records := by
  have tie : (rest field records).Pairwise fun first second =>
      (compareRecords ⟨field, order⟩ first second).isLE = true := by
    refine List.pairwise_of_forall_mem_list fun first present second member => ?_
    have uncompared {record : ScoredRecord Float} (present : record ∈ rest field records) :
        Uncompared (sortValue field record) :=
      (uncompared_iff _).mpr (of_decide_eq_true (List.mem_filter.mp present).2)
    have tied := (compareBy_eq_iff order _ _).mpr (.others (uncompared present) (uncompared member))
    exact (congrArg Ordering.isLE tied).trans rfl
  calc rest field (arrange (some ⟨field, order⟩) records)
      = arrange (some ⟨field, order⟩) (rest field records) := filter_mergeSort _ records
    _ = rest field records := List.mergeSort_of_pairwise tie

end Classes

/-- Sorted by a field in either direction, the numbers come first, then the texts and then
the rest. The numbers and the texts of the one answer are those of the other from the end,
and the rest are in both as they came. -/
theorem sorts_mirrored (records : List (ScoredRecord Float)) (filters : List Filter) (field : String)
    (explanation : Option String) :
    let answer (order : SortOrder) := (Query.execute records ⟨filters, some ⟨field, order⟩, none, explanation⟩).records
    (∀ order, (answer order).Pairwise fun first second =>
      (ValueClass.of (sortValue field first)).position ≤ (ValueClass.of (sortValue field second)).position) ∧
    readings Json.toFloat? field (answer .descending) = (readings Json.toFloat? field (answer .ascending)).reverse ∧
    readings Json.toString? field (answer .descending) = (readings Json.toString? field (answer .ascending)).reverse ∧
    ∀ order, rest field (answer order) = rest field (narrow filters records) := by
  intro answer
  have arranged (order : SortOrder) : answer order = arrange (some ⟨field, order⟩) (narrow filters records) :=
    execute_records records _
  simp only [arranged]
  exact ⟨fun order => classes_sorted field order _, number_reading.mirrored field _, text_reading.mirrored field _,
    fun order => rest_unmoved field order _⟩

end ClipRank.Proofs.MirroredSorts
