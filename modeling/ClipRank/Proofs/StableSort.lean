/-! Stability of a sort by a comparison, stated on the sorted list: nothing stands
before something smaller, and what ties stands in the order it came in. At most
one list of given elements is like that, so a sort commutes with leaving elements out. -/

namespace ClipRank.Proofs.StableSort
open Std (TransCmp OrientedCmp)

variable {α : Type u} {compare : α → α → Ordering} {before : α → α → Prop}

/-- What holds of any two elements of a stably sorted list, where `before` is the
order in which they came. -/
def Settled (compare : α → α → Ordering) (before : α → α → Prop) (first second : α) : Prop :=
  compare first second ≠ .gt ∧ (compare first second = .eq → before first second)

private theorem indices_increase (items : List α) :
    items.zipIdx.Pairwise fun first second => first.2 < second.2 := by
  rw [← List.pairwise_map (f := Prod.snd) (R := (· < ·)), List.zipIdx_map_snd]
  exact List.pairwise_lt_range'

private theorem earlier_before {items : List α} (ordered : items.Pairwise before) {first second : α × Nat}
    (firstMember : first ∈ items.zipIdx) (secondMember : second ∈ items.zipIdx)
    (earlier : first.2 < second.2) : before first.1 second.1 := by
  obtain ⟨firstInside, firstValue⟩ := List.getElem?_eq_some_iff.mp (List.mem_zipIdx_iff_getElem?.mp firstMember)
  obtain ⟨secondInside, secondValue⟩ := List.getElem?_eq_some_iff.mp (List.mem_zipIdx_iff_getElem?.mp secondMember)
  rw [← firstValue, ← secondValue]
  exact List.pairwise_iff_getElem.mp ordered first.2 second.2 firstInside secondInside earlier

/-- Sorting settles any list, whatever the order in which its elements came. The
elements are told apart by their indices, which the sort may use to break ties. -/
theorem mergeSort_settled [TransCmp compare] {items : List α} (ordered : items.Pairwise before) :
    (items.mergeSort fun a b => (compare a b).isLE).Pairwise (Settled compare before) := by
  let le (a b : α) : Bool := (compare a b).isLE
  have trans : ∀ a b c, le a b → le b c → le a c := fun _ _ _ => TransCmp.isLE_trans
  have total : ∀ a b, le a b || le b a := by
    intro a b
    have swapped : compare b a = (compare a b).swap := OrientedCmp.eq_swap
    simp only [le, swapped]
    cases compare a b <;> rfl
  have sorted := List.pairwise_mergeSort (List.zipIdxLE_trans trans) (List.zipIdxLE_total total) items.zipIdx
  have distinct : (items.zipIdx.mergeSort (List.zipIdxLE le)).Pairwise fun first second => first.2 ≠ second.2 :=
    ((indices_increase items).imp Nat.ne_of_lt).perm (List.mergeSort_perm _ _).symm Ne.symm
  rw [← List.mergeSort_zipIdx, List.pairwise_map]
  refine (sorted.and distinct).imp_of_mem ?_
  intro first second firstMember secondMember ⟨inOrder, differ⟩
  simp only [List.zipIdxLE] at inOrder
  split at inOrder
  next below =>
    refine ⟨fun greater => by simp [le, greater] at below, fun tie => ?_⟩
    have above : le second.1 first.1 := by simp [le, OrientedCmp.eq_symm tie]
    have indexed : first.2 ≤ second.2 := by simpa [above] using inOrder
    exact earlier_before ordered (List.mem_mergeSort.mp firstMember) (List.mem_mergeSort.mp secondMember)
      (Nat.lt_of_le_of_ne indexed differ)
  next => exact absurd inOrder Bool.false_ne_true

/-- Nothing stands before something smaller. -/
theorem mergeSort_sorted [TransCmp compare] (items : List α) :
    (items.mergeSort fun a b => (compare a b).isLE).Pairwise fun a b => (compare a b).isLE = true := by
  have unordered : items.Pairwise fun _ _ => True := List.pairwise_of_forall fun _ _ => trivial
  exact (mergeSort_settled unordered).imp fun settled => Ordering.ne_gt_iff_isLE.mp settled.1

/-- Two settled lists of the same elements are equal. -/
theorem settled_unique [OrientedCmp compare] (asymmetric : ∀ a b, before a b → ¬ before b a)
    {items others : List α} (settled : items.Pairwise (Settled compare before))
    (otherSettled : others.Pairwise (Settled compare before)) (same : items.Perm others) : items = others := by
  refine same.eq_of_pairwise ?_ settled otherSettled
  intro a b _ _ forward backward
  have tie : compare a b = .eq := by
    have swapped : compare b a = (compare a b).swap := OrientedCmp.eq_swap
    cases found : compare a b with
    | eq => rfl
    | lt => exact absurd (by rw [swapped, found]; rfl) backward.1
    | gt => exact absurd found forward.1
  exact absurd (backward.2 (OrientedCmp.eq_symm tie)) (asymmetric a b (forward.2 tie))

/-- Elements can be left out before or after a sort. -/
theorem filter_mergeSort [lawful : TransCmp compare] (keep : α → Bool) (items : List α) :
    (items.mergeSort fun a b => (compare a b).isLE).filter keep =
      (items.filter keep).mergeSort fun a b => (compare a b).isLE := by
  -- Beside their indices no two elements are equal, so their sorted list is unique.
  let indexed (first second : α × Nat) : Ordering := compare first.1 second.1
  have : TransCmp indexed := { eq_swap := lawful.eq_swap, isLE_trans := lawful.isLE_trans }
  have increase := indices_increase items
  have same : (items.zipIdx.mergeSort fun a b => (indexed a b).isLE).filter (fun entry => keep entry.1) =
      (items.zipIdx.filter fun entry => keep entry.1).mergeSort fun a b => (indexed a b).isLE := by
    have permuted (entries : List (α × Nat)) : (entries.mergeSort fun a b => (indexed a b).isLE).Perm entries :=
      List.mergeSort_perm entries fun a b => (indexed a b).isLE
    exact settled_unique (fun _ _ => Nat.lt_asymm) ((mergeSort_settled increase).filter _)
      (mergeSort_settled (increase.filter _)) (((permuted _).filter _).trans (permuted _).symm)
  have sorted (entries : List (α × Nat)) : (entries.mergeSort fun a b => (indexed a b).isLE).map Prod.fst =
      (entries.map Prod.fst).mergeSort fun a b => (compare a b).isLE :=
    List.map_mergeSort fun _ _ _ _ => rfl
  have left (entries : List (α × Nat)) : (entries.filter fun entry => keep entry.1).map Prod.fst =
      (entries.map Prod.fst).filter keep :=
    List.filter_map.symm
  have values := congrArg (List.map Prod.fst) same
  rwa [left, sorted, sorted, left, List.zipIdx_map_fst] at values

end ClipRank.Proofs.StableSort
