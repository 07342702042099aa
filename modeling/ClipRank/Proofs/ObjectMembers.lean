import Mathlib.Data.List.Forall2
import Mathlib.Data.List.Nodup
import Mathlib.Data.List.Pairwise
import ClipRank.Json.Shape
import ClipRank.Proofs.Outcome

/-! The members of an object that is read as a record. What a member gives does not depend on
the members before it, and all that is asked of them together is that no field is given twice
and none is missing. So the order of the members only matters if two fields set the same
part of the record, and the names by which they give their fields do not matter at all. -/

namespace ClipRank.Proofs.ObjectMembers
open Json

variable {α : Type} {shape : Shape α} {origin : Origin} {members others : List (Option String × Document)}
variable {given : List (String × (α → α))}

/-- `Gives shape origin members given`: the members can be read one by one, and given are the
updates of the fields among them with the names of the fields. -/
inductive Gives (shape : Shape α) (origin : Origin) :
    List (Option String × Document) → List (String × (α → α)) → Prop where
  | nothing : Gives shape origin [] []
  | passed {key document members given} (unknown : shape.fields.find? (·.named key) = none)
      (intact : document.intact = true) (rest : Gives shape origin members given) :
      Gives shape origin ((some key, document) :: members) given
  | field {key document field update members given} (known : shape.fields.find? (·.named key) = some field)
      (read : field.read origin document = .ok update) (rest : Gives shape origin members given) :
      Gives shape origin ((some key, document) :: members) ((field.name, update) :: given)

def names (given : List (String × (α → α))) : List String :=
  given.map Prod.fst

/-- The record after the updates, in their order. -/
def applied (given : List (String × (α → α))) (record : α) : α :=
  given.foldl (fun record update => update.2 record) record

/-- No field is given twice, and none that has to be given is missing. -/
structure Complete (shape : Shape α) (given : List (String × (α → α))) : Prop where
  distinct : (names given).Nodup
  filled : ∀ field ∈ shape.fields, field.absence = .refused → field.name ∈ names given

section Reading

/-- One member goes on from what was met before it. -/
theorem member_cases {before after : List String × α} {member : Option String × Document}
    (read : shape.readMember origin before member = .ok after) :
    ∃ key document, member = (some key, document) ∧
      ((shape.fields.find? (·.named key) = none ∧ document.intact = true ∧ after = before) ∨
        ∃ field update, shape.fields.find? (·.named key) = some field ∧ field.read origin document = .ok update ∧
          field.name ∉ before.1 ∧ after = (field.name :: before.1, update before.2)) := by
  obtain ⟨key, document⟩ := member
  cases key with
  | none => cases read
  | some key =>
    refine ⟨key, document, rfl, ?_⟩
    simp only [Shape.readMember] at read
    cases found : shape.fields.find? (·.named key) with
    | none =>
      simp only [found] at read
      split_ifs at read with intact
      exact Or.inl ⟨rfl, intact, (Except.ok.inj read).symm⟩
    | some field =>
      simp only [found] at read
      split_ifs at read with seen
      obtain ⟨update, decoded, same⟩ := Outcome.bind_ok.mp read
      refine Or.inr ⟨field, update, rfl, Outcome.mapError_ok.mp decoded, ?_, (Except.ok.inj same).symm⟩
      rwa [List.contains_iff_mem] at seen

private theorem gives_of_read {before after : List String × α}
    (read : members.foldlM (shape.readMember origin) before = .ok after) :
    ∃ given, Gives shape origin members given ∧ (names given).Nodup ∧ (∀ name ∈ names given, name ∉ before.1) ∧
      after = ((names given).reverse ++ before.1, applied given before.2) := by
  induction members generalizing before with
  | nil =>
    cases read
    exact ⟨[], .nothing, .nil, List.forall_mem_nil _, rfl⟩
  | cons member members ih =>
    rw [List.foldlM_cons] at read
    obtain ⟨middle, first, others⟩ := Outcome.bind_ok.mp read
    obtain ⟨given, rest, distinct, fresh, rfl⟩ := ih others
    obtain ⟨key, document, rfl, ⟨unknown, intact, rfl⟩ | ⟨field, update, known, decoded, unseen, rfl⟩⟩ :=
      member_cases first
    · exact ⟨given, .passed unknown intact rest, distinct, fresh, rfl⟩
    · refine ⟨(field.name, update) :: given, .field known decoded rest, ?_, ?_, ?_⟩
      · apply List.nodup_cons.mpr
        exact ⟨fun again => fresh _ again List.mem_cons_self, distinct⟩
      · exact List.forall_mem_cons.mpr ⟨unseen, fun name later seen => fresh name later (List.mem_cons_of_mem _ seen)⟩
      · simp [names, applied]

private theorem read_of_gives (gives : Gives shape origin members given) (before : List String × α)
    (distinct : (names given).Nodup) (fresh : ∀ name ∈ names given, name ∉ before.1) :
    members.foldlM (shape.readMember origin) before = .ok ((names given).reverse ++ before.1, applied given before.2) := by
  induction gives generalizing before with
  | nothing => rfl
  | @passed key document members given unknown intact rest ih =>
    have first : shape.readMember origin before (some key, document) = .ok before := by
      simp only [Shape.readMember, unknown, intact, if_true]
    rw [List.foldlM_cons, first]
    exact ih before distinct fresh
  | @field key document field update members given known read rest ih =>
    obtain ⟨alone, distinct⟩ := List.nodup_cons.mp distinct
    obtain ⟨unseen, fresh⟩ := List.forall_mem_cons.mp fresh
    have first : shape.readMember origin before (some key, document) = .ok (field.name :: before.1, update before.2) := by
      have new : ¬ before.1.contains field.name = true := by rwa [List.contains_iff_mem]
      simp only [Shape.readMember, known, new, read]
      rfl
    have later : ∀ name ∈ names given, name ∉ field.name :: before.1 := by
      intro name member seen
      rcases List.mem_cons.mp seen with rfl | before
      · exact alone member
      · exact fresh name member before
    rw [List.foldlM_cons, first]
    refine (ih (field.name :: before.1, update before.2) distinct later).trans ?_
    simp [names, applied]

private theorem filled_iff (seen : List String) :
    shape.fields.find? (fun field => field.absence = .refused && !seen.contains field.name) = none ↔
      ∀ field ∈ shape.fields, field.absence = .refused → field.name ∈ seen := by
  simp only [List.find?_eq_none, Bool.and_eq_true, decide_eq_true_eq, Bool.not_eq_true', not_and, Bool.not_eq_false,
    List.contains_iff_mem]

private theorem readMembers_iff {closed : Bool} {record : α} :
    shape.readMembers origin members closed = .ok record ↔
      closed = true ∧ ∃ given, Gives shape origin members given ∧ Complete shape given ∧
        applied given shape.start = record := by
  unfold Shape.readMembers
  rw [Outcome.bind_ok]
  constructor
  · rintro ⟨⟨seen, value⟩, read, finished⟩
    obtain ⟨given, gives, distinct, _, same⟩ := gives_of_read read
    simp only [List.append_nil, Prod.mk.injEq] at same
    obtain ⟨rfl, rfl⟩ := same
    dsimp only at finished
    split_ifs at finished with opened
    split at finished
    next field missing => cases finished
    next found =>
      cases finished
      have filled := (filled_iff _).mp found
      simp only [List.mem_reverse] at filled
      exact ⟨by simpa using opened, given, gives, ⟨distinct, filled⟩, rfl⟩
  · rintro ⟨rfl, given, gives, ⟨distinct, filled⟩, rfl⟩
    refine ⟨_, read_of_gives gives ([], shape.start) distinct (fun _ _ => List.not_mem_nil), ?_⟩
    have found := (filled_iff (names given).reverse).mpr (by simpa using filled)
    simp only [List.append_nil, found, Bool.not_true, Bool.false_eq_true, if_false]

/-- An object is read as a record just when its members are and they make it complete. -/
theorem decoder_iff {closed : Bool} {record : α} :
    shape.decoder origin (.object members closed) = .ok record ↔
      closed = true ∧ ∃ inner given, origin.enter = .ok inner ∧ Gives shape inner members given ∧ Complete shape given ∧
        applied given shape.start = record := by
  change (origin.enter >>= fun inner => shape.readMembers inner members closed) = .ok record ↔ _
  rw [Outcome.bind_ok]
  constructor
  · rintro ⟨inner, entered, read⟩
    obtain ⟨rfl, given, gives, complete, same⟩ := readMembers_iff.mp read
    exact ⟨rfl, inner, given, entered, gives, complete, same⟩
  · rintro ⟨rfl, inner, given, entered, gives, complete, same⟩
    exact ⟨inner, entered, readMembers_iff.mpr ⟨rfl, given, gives, complete, same⟩⟩

end Reading

section Rewriting

/-- Two members with one value, under keys of the same field or of none. -/
def Respelled (shape : Shape α) (member other : Option String × Document) : Prop :=
  ∃ key spelling, member.1 = some key ∧ other.1 = some spelling ∧ other.2 = member.2 ∧
    shape.fields.find? (·.named key) = shape.fields.find? (·.named spelling)

/-- A member that is passed over, under a key of no field. -/
def Foreign (shape : Shape α) (member : Option String × Document) : Prop :=
  ∃ key, member.1 = some key ∧ shape.fields.find? (·.named key) = none ∧ member.2.intact = true

theorem Gives.respelled (gives : Gives shape origin members given)
    (respelled : List.Forall₂ (Respelled shape) members others) : Gives shape origin others given := by
  induction gives generalizing others with
  | nothing =>
    cases respelled
    exact .nothing
  | passed unknown intact rest ih =>
    obtain ⟨⟨_, document⟩, later, ⟨key, spelling, ⟨⟩, rfl, rfl, same⟩, following, rfl⟩ :=
      List.forall₂_cons_left_iff.mp respelled
    exact .passed (same.symm.trans unknown) intact (ih following)
  | field known read rest ih =>
    obtain ⟨⟨_, document⟩, later, ⟨key, spelling, ⟨⟩, rfl, rfl, same⟩, following, rfl⟩ :=
      List.forall₂_cons_left_iff.mp respelled
    exact .field (same.symm.trans known) read (ih following)

theorem Gives.append_foreign (gives : Gives shape origin members given) (foreign : ∀ member ∈ others, Foreign shape member) :
    Gives shape origin (members ++ others) given := by
  induction gives with
  | nothing =>
    rw [List.nil_append]
    induction others with
    | nil => exact .nothing
    | cons member rest ih =>
      obtain ⟨_, document⟩ := member
      obtain ⟨⟨key, rfl, unknown, intact⟩, following⟩ := List.forall_mem_cons.mp foreign
      exact .passed unknown intact (ih following)
  | passed unknown intact rest ih => exact .passed unknown intact ih
  | field known read rest ih => exact .field known read ih

theorem Gives.perm (gives : Gives shape origin members given) (perm : members.Perm others) :
    ∃ rearranged, Gives shape origin others rearranged ∧ given.Perm rearranged := by
  induction perm generalizing given with
  | nil => exact ⟨given, gives, .refl _⟩
  | cons member _ ih =>
    cases gives with
    | passed unknown intact rest =>
      obtain ⟨rearranged, following, perm⟩ := ih rest
      exact ⟨rearranged, .passed unknown intact following, perm⟩
    | field known read rest =>
      obtain ⟨rearranged, following, perm⟩ := ih rest
      exact ⟨_, .field known read following, perm.cons _⟩
  | swap first second rest =>
    cases gives with
    | passed unknown intact following =>
      cases following with
      | passed other whole last => exact ⟨_, .passed other whole (.passed unknown intact last), .refl _⟩
      | field known read last => exact ⟨_, .field known read (.passed unknown intact last), .refl _⟩
    | field known read following =>
      cases following with
      | passed unknown intact last => exact ⟨_, .passed unknown intact (.field known read last), .refl _⟩
      | field other also last => exact ⟨_, .field other also (.field known read last), .swap _ _ _⟩
  | trans _ _ first second =>
    obtain ⟨middle, gives, before⟩ := first gives
    obtain ⟨rearranged, gives, after⟩ := second gives
    exact ⟨rearranged, gives, before.trans after⟩

theorem Complete.perm {rearranged : List (String × (α → α))} (complete : Complete shape given)
    (perm : given.Perm rearranged) : Complete shape rearranged := by
  have same : (names given).Perm (names rearranged) := perm.map Prod.fst
  refine ⟨same.nodup complete.distinct, ?_⟩
  intro field member refused
  exact same.subset (complete.filled field member refused)

/-- What the two fields set of a record does not depend on which of them comes first. -/
def Apart (first second : Json.Field α) : Prop :=
  ∀ origin document update, first.read origin document = .ok update →
    ∀ origin document other, second.read origin document = .ok other →
      ∀ record, update (other record) = other (update record)

instance : Std.Symm (Apart (α := α)) where
  symm _ _ apart origin document update read origin' document' other decoded record :=
    (apart origin' document' other decoded origin document update read record).symm

private theorem Gives.origin_of (gives : Gives shape origin members given) {update : String × (α → α)} (member : update ∈ given) :
    ∃ field ∈ shape.fields, field.name = update.1 ∧ ∃ document, field.read origin document = .ok update.2 := by
  induction gives with
  | nothing => cases member
  | passed _ _ _ ih => exact ih member
  | @field key document field found members given known read rest ih =>
    rcases List.mem_cons.mp member with rfl | later
    · exact ⟨field, List.mem_of_find?_eq_some known, rfl, document, read⟩
    · exact ih later

/-- The updates can be made in any order. -/
theorem Gives.applied_perm (gives : Gives shape origin members given) (complete : Complete shape given)
    (apart : shape.fields.Pairwise Apart) {rearranged : List (String × (α → α))} (perm : given.Perm rearranged)
    (record : α) : applied rearranged record = applied given record := by
  symm
  apply perm.foldl_eq'
  intro first firstMember second secondMember record
  by_cases same : first.1 = second.1
  · have equal := List.inj_on_of_nodup_map complete.distinct firstMember secondMember same
    rw [equal]
  · obtain ⟨field, fieldMember, name, document, read⟩ := gives.origin_of firstMember
    obtain ⟨other, otherMember, otherName, _, decoded⟩ := gives.origin_of secondMember
    have different : other ≠ field := by
      rintro rfl
      exact same (name.symm.trans otherName)
    exact apart.forall otherMember fieldMember different _ _ _ decoded _ _ _ read record

/-- A record is read the same from the members in another order, under other names of their
fields and among members that are passed over. -/
theorem decoded_rewritten {respelled added : List (Option String × Document)} {closed : Bool} {record : α}
    (apart : shape.fields.Pairwise Apart) (renamed : List.Forall₂ (Respelled shape) members respelled)
    (foreign : ∀ member ∈ added, Foreign shape member) (perm : others.Perm (respelled ++ added))
    (read : shape.decoder origin (.object members closed) = .ok record) :
    shape.decoder origin (.object others closed) = .ok record := by
  obtain ⟨whole, inner, given, entered, gives, complete, rfl⟩ := decoder_iff.mp read
  obtain ⟨rearranged, after, moved⟩ := ((gives.respelled renamed).append_foreign foreign).perm perm.symm
  apply decoder_iff.mpr
  exact ⟨whole, inner, rearranged, entered, after, complete.perm moved, gives.applied_perm complete apart moved _⟩

private theorem Gives.mem_names {key : String} {document : Document} {field : Json.Field α}
    (gives : Gives shape origin members given) (present : (some key, document) ∈ members)
    (known : shape.fields.find? (·.named key) = some field) : field.name ∈ names given := by
  induction gives with
  | nothing => cases present
  | passed unknown intact rest ih =>
    rcases List.mem_cons.mp present with same | later
    · cases same
      rw [known] at unknown
      cases unknown
    · exact ih later
  | field found read rest ih =>
    rcases List.mem_cons.mp present with same | later
    · cases same
      rw [known] at found
      cases found
      exact List.mem_cons_self
    · exact List.mem_cons_of_mem _ (ih later)

/-- No record is read from an object that gives a field under two keys, wherever they stand. -/
theorem doubled_refused {key spelling : String} {document value : Document} {field : Json.Field α} {closed : Bool}
    (known : shape.fields.find? (·.named key) = some field) (also : shape.fields.find? (·.named spelling) = some field)
    (present : (some key, document) ∈ members) (perm : others.Perm ((some spelling, value) :: members)) :
    ∃ fault, shape.decoder origin (.object others closed) = .error fault := by
  cases outcome : shape.decoder origin (.object others closed) with
  | error fault => exact ⟨fault, rfl⟩
  | ok record =>
    obtain ⟨_, _, given, _, gives, complete, _⟩ := decoder_iff.mp outcome
    obtain ⟨rearranged, gives, moved⟩ := gives.perm perm
    have distinct := (complete.perm moved).distinct
    cases gives with
    | passed unknown intact rest =>
      rw [also] at unknown
      cases unknown
    | field found read rest =>
      rw [also] at found
      cases found
      exact absurd (rest.mem_names present known) (List.nodup_cons.mp distinct).1

end Rewriting

end ClipRank.Proofs.ObjectMembers
