import Mathlib.Data.Fintype.Fin
import Mathlib.Data.List.FinRange
import ClipRank.Proofs.QueryStages

/-! What a query answers, stated on the positions of the records: which of them
meet the filters, and in which order and number they are returned. A list is what stands
at its positions, and each part of a query does with the records at some positions what it
does with these. -/

namespace ClipRank.Proofs.QuerySelection
open Std (TransCmp)
open StableSort QueryStages

variable (records : List (ScoredRecord Float)) (query : Query)

/-- The positions whose view meets every condition at the field it is for. -/
def matching : Finset (Fin records.length) :=
  Finset.univ.filter fun position => ∀ filter ∈ query.filters,
    filter.condition.holds (Path.resolve? records[position].toJson filter.field) = true

/-- An arrangement of the matching positions that the sort does not decrease and
that leaves ties in the order of the records. Without a sort everything ties. -/
structure Arrangement (order : List (Fin records.length)) : Prop where
  distinct : order.Nodup
  complete : order.toFinset = matching records query
  nondecreasing : ∀ sort, query.sort = some sort →
    order.Pairwise fun first second => compareRecords sort records[first] records[second] ≠ .gt
  stable : order.Pairwise fun first second =>
    (∀ sort, query.sort = some sort → compareRecords sort records[first] records[second] = .eq) → first < second

/-- The comparison of two positions by the sort of a query. -/
private def comparison (first second : Fin records.length) : Ordering :=
  compareSorted query.sort records[first] records[second]

private instance : TransCmp (comparison records query) :=
  have lawful := compareSorted_trans query.sort
  { eq_swap := lawful.eq_swap, isLE_trans := lawful.isLE_trans }

/-- An arrangement is a settled list of the matching positions. -/
private theorem arrangement_iff (order : List (Fin records.length)) :
    Arrangement records query order ↔ order.Nodup ∧ order.toFinset = matching records query ∧
      order.Pairwise (Settled (comparison records query) (· < ·)) := by
  have split : order.Pairwise (Settled (comparison records query) (· < ·)) ↔
      (∀ sort, query.sort = some sort →
        order.Pairwise fun first second => compareRecords sort records[first] records[second] ≠ .gt) ∧
      order.Pairwise fun first second =>
        (∀ sort, query.sort = some sort → compareRecords sort records[first] records[second] = .eq) → first < second := by
    change order.Pairwise (fun first second => _ ∧ _) ↔ _
    rw [List.pairwise_and_iff]
    cases sort : query.sort <;> simp [comparison, compareSorted, sort, List.pairwise_of_forall]
  rw [split]
  exact ⟨fun held => ⟨held.distinct, held.complete, held.nondecreasing, held.stable⟩,
    fun ⟨distinct, complete, nondecreasing, stable⟩ => ⟨distinct, complete, nondecreasing, stable⟩⟩

/-- The matching positions in the order of the records. -/
private def listed : List (Fin records.length) :=
  (List.finRange records.length).filter (· ∈ matching records query)

private def arranged : List (Fin records.length) :=
  (listed records query).mergeSort fun first second => (comparison records query first second).isLE

private theorem arranged_arrangement : Arrangement records query (arranged records query) := by
  have increasing : (listed records query).Pairwise (· < ·) := (List.pairwise_lt_finRange _).filter _
  have permuted : (arranged records query).Perm (listed records query) := List.mergeSort_perm _ _
  rw [arrangement_iff]
  refine ⟨permuted.nodup_iff.mpr (increasing.imp Fin.ne_of_lt), ?_, mergeSort_settled increasing⟩
  rw [List.toFinset_eq_of_perm _ _ permuted]
  ext position
  simp [listed]

theorem arrangement_unique {order other : List (Fin records.length)}
    (first : Arrangement records query order) (second : Arrangement records query other) : order = other := by
  obtain ⟨distinct, complete, settled⟩ := (arrangement_iff records query order).mp first
  obtain ⟨otherDistinct, otherComplete, otherSettled⟩ := (arrangement_iff records query other).mp second
  refine settled_unique (fun _ _ => not_lt_of_gt) settled otherSettled ?_
  rw [List.perm_ext_iff_of_nodup distinct otherDistinct]
  intro position
  rw [← List.mem_toFinset, complete, ← otherComplete, List.mem_toFinset]

private theorem narrow_listed : narrow query.filters records = (listed records query).map (records[·]) := by
  conv_lhs => rw [← List.map_getElem_finRange records]
  rw [narrow, List.filter_map, listed]
  refine congrArg (List.map _) (List.filter_congr fun position _ => ?_)
  simp only [matching, Finset.mem_filter, Finset.mem_univ, true_and]
  exact List.all_eq

private theorem arrange_listed :
    arrange query.sort ((listed records query).map (records[·])) = (arranged records query).map (records[·]) := by
  rw [arrange_eq]
  refine (List.map_mergeSort ?_).symm
  intro first _ second _
  rfl

theorem arrangement_exists : ∃ order, Arrangement records query order :=
  ⟨_, arranged_arrangement records query⟩

/-- The answer of a query, read off an arrangement. -/
theorem Arrangement.answer {order : List (Fin records.length)} (arrangement : Arrangement records query order) :
    (query.execute records).records = (query.limit.elim order order.take).map (records[·]) ∧
    (query.execute records).total = order.length := by
  rw [arrangement_unique records query arrangement (arranged_arrangement records query), execute_records,
    execute_total, narrow_listed, arrange_listed, List.length_map]
  refine ⟨?_, (List.length_mergeSort _).symm⟩
  cases query.limit with
  | none => rfl
  | some count => exact List.map_take.symm

/-- A query counts the matching positions and returns the records at the first
ones of the only arrangement there is, up to the limit. -/
theorem execute_selects :
    (query.execute records).total = (matching records query).card ∧
    ∃ order, Arrangement records query order ∧
      (∀ other, Arrangement records query other → other = order) ∧
      (query.execute records).records =
        (order.take (query.limit.elim (matching records query).card (min · (matching records query).card))).map
          (records[·]) := by
  have arrangement := arranged_arrangement records query
  obtain ⟨answered, counted⟩ := arrangement.answer
  have size : (arranged records query).length = (matching records query).card := by
    rw [← arrangement.complete, List.toFinset_card_of_nodup arrangement.distinct]
  refine ⟨counted.trans size, arranged records query, arrangement,
    fun other held => arrangement_unique records query held arrangement, ?_⟩
  rw [answered, ← size]
  cases query.limit with
  | none => rw [Option.elim_none, Option.elim_none, List.take_length]
  | some count => rw [Option.elim_some, Option.elim_some, ← List.take_eq_take_min]

end ClipRank.Proofs.QuerySelection
