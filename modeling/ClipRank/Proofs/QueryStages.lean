import ClipRank.Query.Result
import ClipRank.Proofs.StableSort
import ClipRank.Proofs.ValueOrder

/-! What the parts of a query do to a list of records, each by itself: the filters leave
records out, the sort arranges them and the limit takes the first ones. A query is these
three after each other, and since leaving out commutes with arranging, filters may as well
be applied after the sort. None of the three changes what it has made itself, so a query that
is asked about its own answer gives it again. -/

namespace ClipRank.Proofs.QueryStages
open Std (TransCmp)
open StableSort

/-- The records whose view meets every filter. -/
def narrow (filters : List Filter) (records : List (ScoredRecord Float)) : List (ScoredRecord Float) :=
  records.filter fun record => filters.all fun filter =>
    filter.condition.holds (Path.resolve? record.toJson filter.field)

/-- The comparison of two records by a sort. -/
def compareRecords (sort : SortKey) (first second : ScoredRecord Float) : Ordering :=
  sort.order.compareBy (Path.resolve? first.toJson sort.field) (Path.resolve? second.toJson sort.field)

def arrange (sort : Option SortKey) (records : List (ScoredRecord Float)) : List (ScoredRecord Float) :=
  sort.elim records fun sort => records.mergeSort fun first second => (compareRecords sort first second).isLE

def cut (limit : Option Nat) (records : List (ScoredRecord Float)) : List (ScoredRecord Float) :=
  limit.elim records records.take

instance compareRecords_trans (sort : SortKey) : TransCmp (compareRecords sort) :=
  have lawful := ValueOrder.compareBy_trans sort.order
  { eq_swap := lawful.eq_swap, isLE_trans := lawful.isLE_trans }

/-- The comparison that an arrangement is made by. Without a sort everything ties. -/
def compareSorted (sort : Option SortKey) (first second : ScoredRecord Float) : Ordering :=
  sort.elim .eq (compareRecords · first second)

instance compareSorted_trans (sort : Option SortKey) : TransCmp (compareSorted sort) := by
  cases sort with
  | none => exact { eq_swap := rfl, isLE_trans := fun _ _ => rfl }
  | some sort => exact compareRecords_trans sort

theorem arrange_eq (sort : Option SortKey) (records : List (ScoredRecord Float)) :
    arrange sort records = records.mergeSort fun first second => (compareSorted sort first second).isLE := by
  cases sort with
  | none => exact (List.mergeSort_of_pairwise (List.pairwise_of_forall fun _ _ => rfl)).symm
  | some sort => rfl

/-- The views are only looked at: they do not show in what is kept, and in which order. -/
private theorem rows_narrowed (records : List (ScoredRecord Float)) (query : Query) :
    (records.map fun record => (record, record.toJson)).filter (fun row => query.admits row.2) =
      (narrow query.filters records).map fun record => (record, record.toJson) := by
  rw [List.filter_map]
  rfl

private theorem rows_arranged (records : List (ScoredRecord Float)) (sort : SortKey) :
    (records.map fun record => (record, record.toJson)).mergeSort
        (fun first second => Query.inOrder sort first.2 second.2) =
      (arrange (some sort) records).map fun record => (record, record.toJson) := by
  refine (List.map_mergeSort ?_).symm
  intro first _ second _
  rfl

private theorem row_first (records : List (ScoredRecord Float)) :
    (records.map fun record => (record, record.toJson)).map (·.1) = records := by
  simp [Function.comp_def]

theorem execute_records (records : List (ScoredRecord Float)) (query : Query) :
    (query.execute records).records = cut query.limit (arrange query.sort (narrow query.filters records)) := by
  simp only [Query.execute, rows_narrowed]
  cases sort : query.sort with
  | none => cases query.limit <;> simp only [← List.map_take, row_first] <;> rfl
  | some sort => cases query.limit <;> simp only [rows_arranged, ← List.map_take, row_first] <;> rfl

theorem execute_total (records : List (ScoredRecord Float)) (query : Query) :
    (query.execute records).total = (narrow query.filters records).length := by
  simp only [Query.execute, rows_narrowed, List.length_map]

theorem execute_explanation (records : List (ScoredRecord Float)) (query : Query) :
    (query.execute records).explanation = query.explain (query.execute records).records.isEmpty := by
  simp only [Query.execute, List.isEmpty_map]

theorem arrange_perm (sort : Option SortKey) (records : List (ScoredRecord Float)) :
    (arrange sort records).Perm records := by
  rw [arrange_eq]
  exact List.mergeSort_perm records _

theorem cut_sublist (limit : Option Nat) (records : List (ScoredRecord Float)) :
    (cut limit records).Sublist records := by
  cases limit with
  | none => exact List.Sublist.refl records
  | some count => exact List.take_sublist count records

/-- The records of an answer are among those that meet the filters. -/
theorem execute_narrowed (records : List (ScoredRecord Float)) (query : Query) :
    (query.execute records).records ⊆ narrow query.filters records := by
  rw [execute_records]
  exact List.Subset.trans (cut_sublist _ _).subset (arrange_perm _ _).subset

/-- Every record of an answer is one of the records asked about. -/
theorem execute_subset (records : List (ScoredRecord Float)) (query : Query) :
    (query.execute records).records ⊆ records :=
  List.Subset.trans (execute_narrowed records query) List.filter_sublist.subset

theorem narrow_nil (records : List (ScoredRecord Float)) : narrow [] records = records :=
  List.filter_eq_self.mpr fun _ _ => rfl

theorem narrow_append (first second : List Filter) (records : List (ScoredRecord Float)) :
    narrow (first ++ second) records = narrow second (narrow first records) := by
  simp only [narrow, List.filter_filter, List.all_append, Bool.and_comm]

theorem narrow_arrange (filters : List Filter) (sort : Option SortKey) (records : List (ScoredRecord Float)) :
    narrow filters (arrange sort records) = arrange sort (narrow filters records) := by
  simp only [arrange_eq]
  exact filter_mergeSort _ records

theorem length_arrange (sort : Option SortKey) (records : List (ScoredRecord Float)) :
    (arrange sort records).length = records.length :=
  (arrange_perm sort records).length_eq

theorem narrow_perm {filters others : List Filter} (same : filters.Perm others) (records : List (ScoredRecord Float)) :
    narrow filters records = narrow others records :=
  List.filter_congr fun _ _ => same.all_eq

/-- The first ones of a sorted list are sorted. -/
theorem arrange_cut (sort : Option SortKey) (limit : Option Nat) (records : List (ScoredRecord Float)) :
    arrange sort (cut limit (arrange sort records)) = cut limit (arrange sort records) := by
  simp only [arrange_eq]
  exact List.mergeSort_of_pairwise ((mergeSort_sorted records).sublist (cut_sublist limit _))

theorem cut_cut (limit : Option Nat) (records : List (ScoredRecord Float)) :
    cut limit (cut limit records) = cut limit records := by
  cases limit with
  | none => rfl
  | some count => simp only [cut, Option.elim_some, List.take_take, Nat.min_self]

/-- Filtering, then sorting, then filtering and cutting answers as one query with all of
the filters does, and the order of the filters of a query makes no difference. -/
theorem staged_as_one (records : List (ScoredRecord Float)) :
    (∀ (first second : List Filter) (sort : Option SortKey) (limit : Option Nat),
      let narrowed := (Query.execute records ⟨first, none, none, none⟩).records
      let sorted := (Query.execute narrowed ⟨[], sort, none, none⟩).records
      let staged := Query.execute sorted ⟨second, none, limit, none⟩
      let whole := Query.execute records ⟨first ++ second, sort, limit, none⟩
      staged.records = whole.records ∧ staged.total = whole.total) ∧
    ∀ (query : Query) (filters : List Filter), filters.Perm query.filters →
      (Query.execute records { query with filters }).records = (query.execute records).records ∧
        (Query.execute records { query with filters }).total = (query.execute records).total := by
  refine ⟨fun first second sort limit => ?_, fun query filters same => ?_⟩
  · have narrowed : (Query.execute records ⟨first, none, none, none⟩).records = narrow first records :=
      execute_records records _
    have sorted : (Query.execute (narrow first records) ⟨[], sort, none, none⟩).records =
        arrange sort (narrow first records) := by
      rw [execute_records, narrow_nil]
      rfl
    dsimp only
    rw [narrowed, sorted, execute_records, execute_records, execute_total, execute_total]
    dsimp only
    rw [narrow_append, narrow_arrange, length_arrange]
    exact ⟨rfl, rfl⟩
  · rw [execute_records, execute_records, execute_total, execute_total]
    dsimp only
    rw [narrow_perm same]
    exact ⟨rfl, rfl⟩

theorem swapped_filters_agree :
    let records : List (ScoredRecord Float) := [
      .ofMetrics "a" "Live set" ⟨1000, 50, 5, 10.0, 90.0⟩ .classic default,
      .ofMetrics "b" "live again" ⟨1000, 50, 5, 10.0, 90.0⟩ .balanced default,
      .ofMetrics "c" "Trailer" ⟨7, 0, 0, 1.0, 30.0⟩ .classic default]
    let live : Filter := ⟨"title", { Condition.empty with contains := some "live" }⟩
    let seen : Filter := ⟨"views", { Condition.empty with gte := some 100.0 }⟩
    let query : Query := ⟨[live, seen], some ⟨"score", .descending⟩, some 1, none⟩
    [seen, live].Perm query.filters ∧
      (Query.execute records { query with filters := [seen, live] }).records = (query.execute records).records ∧
      (Query.execute records { query with filters := [seen, live] }).total = (query.execute records).total :=
  ⟨.swap _ _ [], (staged_as_one _).2 _ _ (.swap _ _ [])⟩

/-- A query that is asked about its own answer gives it again. -/
theorem asked_again (records : List (ScoredRecord Float)) (query : Query) :
    (query.execute (query.execute records).records).records = (query.execute records).records := by
  have kept : narrow query.filters (query.execute records).records = (query.execute records).records :=
    List.filter_eq_self.mpr fun _ present => (List.mem_filter.mp (execute_narrowed records query present)).2
  rw [execute_records (query.execute records).records, kept, execute_records, arrange_cut, cut_cut]

end ClipRank.Proofs.QueryStages
