import ClipRank.Proofs.Metering
import Mathlib.Data.List.DropRight
import Mathlib.Data.List.FinRange
import Mathlib.Order.WellFounded

/-! Which records of a batch are kept. The intake goes through the batch with a list of
the identifiers seen so far, and keeps a record just when it is the first with its
identifier in the whole batch. -/

namespace ClipRank.Proofs.BatchIntake

/-- The record is the first with its identifier, which is not blank. Blanks around an
identifier do not count. -/
def First (records : List VideoRecord) (position : Fin records.length) : Prop :=
  Text.trim records[position].id ≠ "" ∧
    ∀ earlier < position, Text.trim records[earlier].id ≠ Text.trim records[position].id

theorem First.unique {records : List VideoRecord} {first second : Fin records.length} (kept : First records first)
    (other : First records second) (same : Text.trim records[first].id = Text.trim records[second].id) : first = second := by
  rcases lt_trichotomy first second with before | equal | after
  · exact absurd same (other.2 first before)
  · exact equal
  · exact absurd same.symm (kept.2 second after)

instance (records : List VideoRecord) : DecidablePred (First records) :=
  fun _ => inferInstanceAs (Decidable (_ ∧ _))

def firsts (records : List VideoRecord) : List (Fin records.length) :=
  (List.finRange records.length).filter (First records ·)

/-- The positions of the records to keep after some identifiers were seen. -/
private def keptAfter (seen : List String) (records : List VideoRecord) : List (Fin records.length) :=
  (List.finRange records.length).filter fun position =>
    First records position ∧ Text.trim records[position].id ∉ seen

private theorem first_succ {record : VideoRecord} {rest : List VideoRecord} (position : Fin rest.length) :
    First (record :: rest) position.succ ↔
      First rest position ∧ Text.trim rest[position].id ≠ Text.trim record.id := by
  unfold First
  rw [and_assoc]
  refine and_congr_right fun _ => ?_
  constructor
  · intro differ
    exact ⟨fun earlier before => differ earlier.succ (Fin.succ_lt_succ_iff.mpr before),
      fun same => differ 0 (Fin.succ_pos _) same.symm⟩
  · intro ⟨differ, other⟩ earlier before same
    cases earlier using Fin.cases with
    | zero => exact other same.symm
    | succ earlier => exact differ earlier (Fin.succ_lt_succ_iff.mp before) same

private theorem keptAfter_cons (seen : List String) (record : VideoRecord) (rest : List VideoRecord) :
    keptAfter seen (record :: rest) =
      (if Text.trim record.id = "" ∨ Text.trim record.id ∈ seen then [] else [0]) ++
        (keptAfter (Text.trim record.id :: seen) rest).map Fin.succ := by
  have later (position : Fin rest.length) :
      First (record :: rest) position.succ ∧ Text.trim (record :: rest)[position.succ].id ∉ seen ↔
        First rest position ∧ Text.trim rest[position].id ∉ Text.trim record.id :: seen := by
    rw [first_succ, List.mem_cons, not_or, and_assoc]
    rfl
  have head : First (record :: rest) 0 ∧ Text.trim record.id ∉ seen ↔
      ¬ (Text.trim record.id = "" ∨ Text.trim record.id ∈ seen) := by
    have start : First (record :: rest) 0 ↔ Text.trim record.id ≠ "" := by simp [First]
    rw [start, not_or]
  have tail : (List.finRange rest.length).filter
      ((fun position => decide (First (record :: rest) position ∧ Text.trim (record :: rest)[position].id ∉ seen)) ∘
        Fin.succ) = keptAfter (Text.trim record.id :: seen) rest := by
    refine List.filter_congr fun position _ => ?_
    rw [Function.comp_apply, decide_eq_decide]
    exact later position
  change (List.finRange (rest.length + 1)).filter _ = _
  rw [List.finRange_succ, List.filter_cons, List.filter_map, tail]
  by_cases dropped : Text.trim record.id = "" ∨ Text.trim record.id ∈ seen
  · rw [if_pos dropped]
    exact if_neg fun first => head.mp (of_decide_eq_true first) dropped
  · rw [if_neg dropped]
    exact if_pos (decide_eq_true (head.mpr dropped))

/-- Whether an identifier that is dropped anyway was seen makes no difference. -/
private theorem keptAfter_dropped {seen : List String} {id : String} (dropped : id = "" ∨ id ∈ seen)
    (records : List VideoRecord) : keptAfter (id :: seen) records = keptAfter seen records := by
  refine List.filter_congr fun position _ => decide_eq_decide.mpr (and_congr_right fun first => ?_)
  rw [List.mem_cons, not_or]
  refine and_iff_right_of_imp fun unseen same => ?_
  rcases dropped with rfl | member
  · exact first.1 same
  · exact unseen (same ▸ member)

private theorem after_kept (seen : List String) (records : List VideoRecord) :
    (Intake.after seen records).kept = (keptAfter seen records).map fun position => records[position].normalized := by
  induction records generalizing seen with
  | nil => rfl
  | cons record rest ih =>
    rw [keptAfter_cons, List.map_append, List.map_map]
    unfold Intake.after
    dsimp only
    split
    next dropped =>
      rw [ih, keptAfter_dropped dropped]
      rfl
    next kept =>
      rw [ih]
      rfl

private theorem after_length (seen : List String) (records : List VideoRecord) :
    (Intake.after seen records).kept.length + (Intake.after seen records).dropped = records.length := by
  induction records generalizing seen with
  | nil => rfl
  | cons record rest ih =>
    unfold Intake.after
    dsimp only
    split
    · have step := ih seen
      simp only [List.length_cons]
      omega
    · have step := ih (Text.trim record.id :: seen)
      simp only [List.length_cons]
      omega

/-- The first record of each identifier is kept, in the order of delivery. -/
theorem ofBatch_kept (records : List VideoRecord) :
    (Intake.ofBatch records).kept = (firsts records).map fun position => records[position].normalized := by
  have unseen : keptAfter [] records = firsts records := by simp [keptAfter, firsts]
  rw [Intake.ofBatch, after_kept, unseen]

theorem ofBatch_length (records : List VideoRecord) :
    (Intake.ofBatch records).kept.length + (Intake.ofBatch records).dropped = records.length :=
  after_length [] records

theorem trim_trim (text : String) : Text.trim (Text.trim text) = Text.trim text := by
  have start (text : List Char) : Text.trimStart (Text.trimEnd (Text.trimStart text)) = Text.trimEnd (Text.trimStart text) := by
    have kept : Text.trimEnd (Text.trimStart text) <+: Text.trimStart text := List.rdropWhile_prefix _ _
    refine List.dropWhile_eq_self_iff.mpr fun filled => ?_
    have front := List.dropWhile_eq_self_iff.mp (List.dropWhile_idempotent Text.isBlank text)
    rw [kept.getElem filled]
    exact front (filled.trans_le kept.length_le)
  have finish (text : List Char) : Text.trimEnd (Text.trimEnd text) = Text.trimEnd text :=
    List.rdropWhile_idempotent _ _
  unfold Text.trim
  rw [String.toList_ofList, start, finish]

section Exactly
variable {records : List VideoRecord}

theorem mem_firsts (position : Fin records.length) : position ∈ firsts records ↔ First records position := by
  simp [firsts]

/-- Among the records with an identifier there is a first one. -/
private theorem exists_first {record : VideoRecord} (present : record ∈ records) (filled : Text.trim record.id ≠ "") :
    ∃ position, First records position ∧ Text.trim records[position].id = Text.trim record.id := by
  obtain ⟨index, inside, found⟩ := List.mem_iff_getElem.mp present
  have occurs : Text.trim records[index].id = Text.trim record.id := by rw [found]
  obtain ⟨first, same, least⟩ := WellFounded.has_min wellFounded_lt
    { position : Fin records.length | Text.trim records[position].id = Text.trim record.id } ⟨⟨index, inside⟩, occurs⟩
  rw [Set.mem_ofPred_eq] at same
  refine ⟨first, ⟨?_, ?_⟩, same⟩
  · rw [same]
    exact filled
  · intro earlier before repeated
    exact least earlier (repeated.trans same) before

theorem firsts_distinct : ((firsts records).map fun position => Text.trim records[position].id).Nodup := by
  apply List.Nodup.map_on
  · intro first firstMember second secondMember same
    exact ((mem_firsts first).mp firstMember).unique ((mem_firsts second).mp secondMember) same
  · exact (List.nodup_finRange _).filter _

/-- A batch is reduced to the first record of each identifier, in the order of delivery and
with nothing but its identifier and its title brought to normal form. All other records are
counted as dropped, and no identifier is lost, whatever was counted before. -/
theorem intake_exactly (records : List VideoRecord) (tally : Tally) :
    let taken := (StateT.run (Metered.intake records) tally).1
    (∃ positions : List (Fin records.length),
      (∀ position, position ∈ positions ↔ First records position) ∧ positions.Pairwise (· < ·) ∧
      taken.kept = positions.map fun position =>
        { records[position] with
          id := Text.trim records[position].id
          title := Title.normalize records[position].title }) ∧
    taken.dropped = (List.finRange records.length).countP (¬ First records ·) ∧
    taken.kept.length + taken.dropped = records.length ∧
    (taken.kept.map VideoRecord.id).Nodup ∧
    ∀ id, id ∈ taken.kept.map VideoRecord.id ↔ id ≠ "" ∧ ∃ record ∈ records, Text.trim record.id = id := by
  rw [(Metering.intake_yields records).value tally]
  intro taken
  have kept : taken.kept = (firsts records).map fun position => records[position].normalized := ofBatch_kept records
  have counted : taken.kept.length + taken.dropped = records.length := ofBatch_length records
  have identifiers : taken.kept.map VideoRecord.id = (firsts records).map fun position => Text.trim records[position].id := by
    rw [kept, List.map_map]
    rfl
  refine ⟨⟨firsts records, mem_firsts, ?_, kept⟩, ?_, counted, ?_, ?_⟩
  · exact (List.pairwise_lt_finRange _).filter _
  · have parted := List.length_eq_countP_add_countP (First records ·) (l := List.finRange records.length)
    rw [List.length_finRange, List.countP_eq_length_filter] at parted
    rw [kept, List.length_map] at counted
    simp only [decide_eq_true_eq] at parted
    exact Nat.add_left_cancel (counted.trans parted)
  · rw [identifiers]
    exact firsts_distinct
  · intro id
    rw [identifiers, List.mem_map]
    constructor
    · rintro ⟨position, member, rfl⟩
      exact ⟨((mem_firsts position).mp member).1, _, List.getElem_mem _, rfl⟩
    · rintro ⟨filled, record, present, rfl⟩
      obtain ⟨position, first, same⟩ := exists_first present filled
      exact ⟨position, (mem_firsts position).mpr first, same⟩

end Exactly

end ClipRank.Proofs.BatchIntake
