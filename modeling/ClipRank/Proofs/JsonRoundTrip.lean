import ClipRank.Json.Shape
import ClipRank.Proofs.Outcome

/-! Decoding what was encoded. A value is decoded to itself if no object in it repeats a
key, and a record is decoded from its fields, written in their order, if each field is
decoded from what it was written as. -/

namespace ClipRank.Proofs.JsonRoundTrip
open Json

/-- What a value is when it comes from text: its doubles are finite and its objects do not
repeat a key. -/
inductive Proper : Json → Prop where
  | null : Proper .null
  | boolean {value} : Proper (.boolean value)
  | number {value : Number} (finite : ∀ x, value = .real x → x.isFinite = true) : Proper (.number value)
  | string {value} : Proper (.string value)
  | array {items} (proper : ∀ item ∈ items, Proper item) : Proper (.array items)
  | object {members : Members} (distinct : (members.map Prod.fst).Nodup)
      (proper : ∀ member ∈ members, Proper member.2) : Proper (.object members)

section Members

/-- A member that may be missing. -/
def given (key : String) (value : Option Json) : Members :=
  (value.map (key, ·)).toList

theorem mem_given {key : String} {value : Option Json} {member : String × Json} :
    member ∈ given key value ↔ member.1 = key ∧ value = some member.2 := by
  obtain ⟨name, json⟩ := member
  cases value with
  | none => simp [given]
  | some value => simp [given, eq_comm]

theorem given_keys (key : String) (value : Option Json) : ((given key value).map Prod.fst).Sublist [key] := by
  cases value with
  | none => exact List.nil_sublist _
  | some value => exact List.Sublist.refl _

theorem get_given (key : String) (value : Option Json) (rest : Members) (name : String) :
    Members.get? (given key value ++ rest) name = if key = name then value.or (rest.get? name) else rest.get? name := by
  cases value with
  | none => simp [given]
  | some value =>
    by_cases same : key = name
    · simp [given, Members.get?, same]
    · simp [given, Members.get?, same]

private theorem insert_new {members : Members} {key : String} (absent : key ∉ members.map Prod.fst) (value : Json) :
    members.insert key value = members ++ [(key, value)] := by
  induction members with
  | nil => rfl
  | cons member members ih =>
    rw [List.map_cons, List.mem_cons, not_or] at absent
    rw [Members.insert, if_neg (Ne.symm absent.1), ih absent.2]
    rfl

private theorem foldl_insert {members held : Members} (distinct : ((held ++ members).map Prod.fst).Nodup) :
    members.foldl (fun held (key, value) => held.insert key value) held = held ++ members := by
  induction members generalizing held with
  | nil => exact (List.append_nil held).symm
  | cons member members ih =>
    obtain ⟨key, value⟩ := member
    have absent : key ∉ held.map Prod.fst := by
      rw [List.map_append, List.nodup_append] at distinct
      exact fun present => distinct.2.2 _ present _ List.mem_cons_self rfl
    have step : held ++ (key, value) :: members = held ++ [(key, value)] ++ members := by simp
    rw [step] at distinct ⊢
    rw [List.foldl_cons]
    dsimp only
    rw [insert_new absent]
    exact ih distinct

theorem ofList_distinct {members : Members} (distinct : (members.map Prod.fst).Nodup) :
    Members.ofList members = members :=
  foldl_insert distinct

end Members

section Values

private theorem items_back {items : List Json}
    (back : ∀ item ∈ items, Decoder.json .value (Document.ofJson item) = .ok item) :
    Decoder.jsonItems .value (Document.ofItems items) = .ok items := by
  induction items with
  | nil => rfl
  | cons item items ih =>
    rw [List.forall_mem_cons] at back
    rw [Document.ofItems, Decoder.jsonItems, back.1, ih back.2]
    rfl

private theorem members_back {members : Members}
    (back : ∀ member ∈ members, Decoder.json .value (Document.ofJson member.2) = .ok member.2) :
    Decoder.jsonMembers .value (Document.ofMembers members) = .ok members := by
  induction members with
  | nil => rfl
  | cons member members ih =>
    rw [List.forall_mem_cons] at back
    rw [Document.ofMembers, Decoder.jsonMembers, back.1, ih back.2]
    rfl

theorem Proper.json_back {value : Json} (proper : Proper value) : Decoder.ofValue Decoder.json value = .ok value := by
  unfold Decoder.ofValue
  induction proper with
  | null | boolean | number | string => rfl
  | array _ ih =>
    rw [Document.ofJson, Decoder.json]
    change (Decoder.jsonItems .value _ >>= _) = _
    rw [items_back ih]
    rfl
  | object distinct _ ih =>
    rw [Document.ofJson, Decoder.json]
    change (Decoder.jsonMembers .value _ >>= _) = _
    rw [members_back ih]
    exact congrArg (Except.ok ∘ Json.object) (ofList_distinct distinct)

theorem Proper.members_back {members : Members} (proper : Proper (.object members)) :
    Decoder.members.ofValue (.object members) = .ok members := by
  have back := proper.json_back
  unfold Decoder.ofValue at back ⊢
  rw [Document.ofJson, Decoder.json] at back
  rw [Document.ofJson, Decoder.members]
  change (Decoder.jsonMembers .value _ >>= _) = _ at back
  change (Decoder.jsonMembers .value _ >>= _) = _
  obtain ⟨decoded, found, same⟩ := Outcome.bind_ok.mp back
  refine Outcome.bind_ok.mpr ⟨decoded, found, ?_⟩
  exact congrArg Except.ok (Json.object.inj (Except.ok.inj same))

theorem ofFloat_finite {x : Float} (finite : x.isFinite = true) : Json.ofFloat x = .number (.real x) :=
  if_pos finite

theorem float_back {x : Float} (finite : x.isFinite = true) : Decoder.float.ofValue (.ofFloat x) = .ok x := by
  rw [ofFloat_finite finite]
  rfl

theorem option_back {α : Type} {decoder : Decoder α} {json : Json} {value : α}
    (back : decoder.ofValue json = .ok value) (filled : json ≠ .null) :
    decoder.option.ofValue json = .ok (some value) := by
  have given : decoder.option.ofValue json = (decoder.ofValue json).map some := by
    cases json with
    | null => exact absurd rfl filled
    | boolean | number | string | array | object => rfl
  rw [given, back]
  rfl

theorem float_option_back {x : Float} (finite : x.isFinite = true) :
    Decoder.float.option.ofValue (.ofFloat x) = .ok (some x) := by
  refine option_back (float_back finite) fun null => ?_
  rw [ofFloat_finite finite] at null
  cases null

end Values

section Records
variable {α : Type}

/-- What a record is written as: each field by a value that is decoded to its update, or
not at all. The fields turn the record `before` into the record `after`. -/
inductive Written : List (Json.Field α) → Members → α → α → Prop where
  | done {record} : Written [] [] record record
  | present {field fields value update members before after} (back : field.read.ofValue value = .ok update)
      (rest : Written fields members (update before) after) :
      Written (field :: fields) ((field.name, value) :: members) before after
  | omitted {field fields members before after} (optional : field.absence ≠ .refused)
      (rest : Written fields members before after) : Written (field :: fields) members before after

theorem Written.made {β : Type} {name : String} {absence : Absence} {decoder : Decoder β} {set : β → α → α}
    {fields : List (Json.Field α)} {json : Json} {value : β} {members : Members} {before after : α}
    (back : decoder.ofValue json = .ok value) (rest : Written fields members (set value before) after) :
    Written (Json.Field.make name absence decoder set :: fields) ((name, json) :: members) before after :=
  .present (congrArg (Except.map set) back) rest

/-- A field that is not written has to have its value already. -/
theorem Written.maybe {field : Json.Field α} {fields : List (Json.Field α)} {json : Option Json} {members : Members}
    {before after : α} (middle : α) (optional : field.absence ≠ .refused)
    (back : ∀ written, json = some written → ∃ update, field.read.ofValue written = .ok update ∧ update before = middle)
    (unset : json = none → middle = before) (rest : Written fields members middle after) :
    Written (field :: fields) (given field.name json ++ members) before after := by
  cases json with
  | none => exact .omitted optional (unset rfl ▸ rest)
  | some written =>
    obtain ⟨update, read, rfl⟩ := back written rfl
    exact .present read rest

theorem Written.optional {β : Type} {name : String} {absence : Absence} {decoder : Decoder β} {set : β → α → α}
    {fields : List (Json.Field α)} {json : Option Json} {members : Members} {before after : α} (value : β)
    (optional : absence ≠ .refused) (back : ∀ written, json = some written → decoder.ofValue written = .ok value)
    (unset : json = none → set value before = before) (rest : Written fields members (set value before) after) :
    Written (Json.Field.make name absence decoder set :: fields) (given name json ++ members) before after :=
  .maybe _ optional (fun written same => ⟨_, congrArg (Except.map set) (back written same), rfl⟩) unset rest

theorem Written.optional_float {name : String} {absence : Absence} {set : Option Float → α → α}
    {fields : List (Json.Field α)} {x : Option Float} {members : Members} {before after : α}
    (optional : absence ≠ .refused) (finite : ∀ value, x = some value → value.isFinite = true)
    (unset : set none before = before) (rest : Written fields members (set x before) after) :
    Written (Json.Field.make name absence Decoder.float.option set :: fields) (given name (x.map .ofFloat) ++ members)
      before after := by
  refine .optional x optional (fun written same => ?_) (fun missing => ?_) rest
  · obtain ⟨value, rfl, rfl⟩ := Option.map_eq_some_iff.mp same
    exact float_option_back (finite value rfl)
  · rw [Option.map_eq_none_iff.mp missing]
    exact unset

/-- All names under which the fields of a record may be given. -/
def keys (shape : Shape α) : List String :=
  shape.fields.flatMap fun field => field.name :: field.aliases

theorem named_iff (field : Json.Field α) (key : String) :
    field.named key = true ↔ key ∈ field.name :: field.aliases := by
  rw [Json.Field.named, Bool.or_eq_true, decide_eq_true_iff, List.contains_iff_mem, List.mem_cons, eq_comm]

private theorem find_named {fields : List (Json.Field α)}
    (distinct : (fields.flatMap fun field => field.name :: field.aliases).Nodup) {field : Json.Field α}
    (present : field ∈ fields) : fields.find? (·.named field.name) = some field := by
  induction fields with
  | nil => cases present
  | cons first fields ih =>
    rw [List.flatMap_cons, List.nodup_append] at distinct
    obtain ⟨_, others, apart⟩ := distinct
    rcases List.mem_cons.mp present with rfl | later
    · have named : field.named field.name = true := (named_iff field _).mpr List.mem_cons_self
      simp only [List.find?_cons, named]
    · have other : first.named field.name = false := by
        refine Bool.eq_false_iff.mpr fun named => ?_
        exact apart _ ((named_iff _ _).mp named) _ (List.mem_flatMap.mpr ⟨field, later, List.mem_cons_self⟩) rfl
      simp only [List.find?_cons, other, ih others later]

theorem readMember_ok {shape : Shape α} {field : Json.Field α} {seen : List String} {before : α}
    {value : Json} {update : α → α} (found : shape.fields.find? (·.named field.name) = some field)
    (fresh : field.name ∉ seen)
    (back : field.read.ofValue value = .ok update) :
    shape.readMember .value (seen, before) (some field.name, Document.ofJson value) =
      .ok (field.name :: seen, update before) := by
  have unseen : ¬ seen.contains field.name = true := by rwa [List.contains_iff_mem]
  have decoded : field.read .value (Document.ofJson value) = .ok update := back
  simp only [Shape.readMember, found, unseen, decoded]
  rfl

/-- What is written is read field by field, and no field is met twice. -/
private theorem Written.read {shape : Shape α} {fields : List (Json.Field α)} {members : Members} {before after : α}
    (written : Written fields members before after) {seen : List String}
    (found : ∀ field ∈ fields, shape.fields.find? (·.named field.name) = some field)
    (fresh : ∀ field ∈ fields, field.name ∉ seen) (distinct : (fields.map Json.Field.name).Nodup) :
    ∃ names, (Document.ofMembers members).foldlM (shape.readMember .value) (seen, before) = .ok (names, after) ∧
      seen ⊆ names ∧ ∀ field ∈ fields, field.absence = .refused → field.name ∈ names := by
  induction written generalizing seen with
  | done => exact ⟨seen, rfl, List.Subset.refl _, by simp⟩
  | @present field fields value update members before after back rest ih =>
    rw [List.forall_mem_cons] at found fresh
    obtain ⟨absent, distinct⟩ := List.nodup_cons.mp distinct
    have freshAfter : ∀ other ∈ fields, other.name ∉ field.name :: seen := by
      intro other present
      rw [List.mem_cons, not_or]
      exact ⟨fun same => absent (same ▸ List.mem_map_of_mem present), fresh.2 other present⟩
    obtain ⟨names, read, kept, given⟩ := ih found.2 freshAfter distinct
    refine ⟨names, ?_, fun name present => kept (List.mem_cons_of_mem _ present), ?_⟩
    · rw [Document.ofMembers, List.foldlM_cons, readMember_ok found.1 fresh.1 back]
      exact read
    · exact List.forall_mem_cons.mpr ⟨fun _ => kept List.mem_cons_self, given⟩
  | @omitted field fields members before after optional rest ih =>
    rw [List.forall_mem_cons] at found fresh
    obtain ⟨names, read, kept, given⟩ := ih found.2 fresh.2 (List.nodup_cons.mp distinct).2
    exact ⟨names, read, kept, List.forall_mem_cons.mpr ⟨fun refused => absurd refused optional, given⟩⟩

/-- A record is decoded from what its fields were written as. -/
theorem Written.decoded {shape : Shape α} {members : Members} {record : α}
    (written : Written shape.fields members shape.start record) (distinct : (keys shape).Nodup) :
    shape.decoder.ofValue (.object members) = .ok record := by
  have names : (shape.fields.map Json.Field.name).Sublist (keys shape) := by
    unfold keys
    induction shape.fields with
    | nil => exact .slnil
    | cons field fields ih => exact .cons_cons _ (ih.trans (List.sublist_append_right _ _))
  obtain ⟨seen, read, _, given⟩ := written.read (fun _ present => find_named distinct present)
    (fun _ _ => List.not_mem_nil) (distinct.sublist names)
  have complete : shape.fields.find? (fun field => field.absence = .refused && !seen.contains field.name) = none := by
    refine List.find?_eq_none.mpr fun field present missing => ?_
    simp only [Bool.and_eq_true, decide_eq_true_eq, Bool.not_eq_true', Bool.eq_false_iff, ne_eq,
      List.contains_iff_mem] at missing
    exact missing.2 (given field present missing.1)
  change shape.readMembers .value (Document.ofMembers members) true = _
  unfold Shape.readMembers
  simp only [read, Outcome.bind_ok, Except.ok.injEq, exists_eq_left', complete, Bool.not_true, Bool.false_eq_true,
    if_false]

end Records

end ClipRank.Proofs.JsonRoundTrip
