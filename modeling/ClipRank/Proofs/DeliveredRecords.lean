import ClipRank.ScoredRecord
import ClipRank.VideoRecord.Json
import ClipRank.Proofs.ObjectMembers
import ClipRank.Proofs.TextValues
import ClipRank.Proofs.TimestampText

/-! Delivered records, written and read again. Counters are words by then, an age is
finite, and an instant is one that has a text. Only a length that is not finite is lost,
and it counts as no length at all. -/

namespace ClipRank.Proofs.DeliveredRecords
open Json JsonRoundTrip TimestampText

section Fields
variable {α : Type} {kept : α → Prop}

/-- The updates that are read from values leave a property of the record as it is. -/
def Keeps (kept : α → Prop) (read : Decoder (α → α)) : Prop :=
  ∀ value, Proper value → ∀ update, read.ofValue value = .ok update → ∀ record, kept record → kept (update record)

theorem Keeps.map {β : Type} {decoder : Decoder β} {set : β → α → α}
    (keeps : ∀ json, Proper json → ∀ value, decoder.ofValue json = .ok value → ∀ record, kept record → kept (set value record)) :
    Keeps kept (decoder.map set) := by
  intro json proper update read record held
  obtain ⟨value, decoded, rfl⟩ := Outcome.map_ok.mp read
  exact keeps json proper value decoded record held

private theorem member_keeps {shape : Shape α} (fields : ∀ field ∈ shape.fields, Keeps kept field.read) {key : String}
    {value : Json} (proper : Proper value) {before after : List String × α} (held : kept before.2)
    (read : shape.readMember .value before (some key, Document.ofJson value) = .ok after) : kept after.2 := by
  obtain ⟨_, _, same, ⟨_, _, rfl⟩ | ⟨field, update, found, decoded, _, rfl⟩⟩ := ObjectMembers.member_cases read
  · exact held
  · cases same
    exact fields field (List.mem_of_find?_eq_some found) value proper update decoded before.2 held

private theorem members_keep {shape : Shape α} (fields : ∀ field ∈ shape.fields, Keeps kept field.read) {members : Members}
    (proper : ∀ member ∈ members, Proper member.2) {before after : List String × α} (held : kept before.2)
    (read : (Document.ofMembers members).foldlM (shape.readMember .value) before = .ok after) : kept after.2 := by
  induction members generalizing before with
  | nil =>
    cases read
    exact held
  | cons member members ih =>
    rw [List.forall_mem_cons] at proper
    rw [Document.ofMembers, List.foldlM_cons] at read
    obtain ⟨middle, first, rest⟩ := Outcome.bind_ok.mp read
    exact ih proper.2 (member_keeps fields proper.1 held first) rest

private theorem items_keep {shape : Shape α} {fields : List (Json.Field α)} (keep : ∀ field ∈ fields, Keeps kept field.read)
    {items : List Json} (proper : ∀ item ∈ items, Proper item) {position : Nat} {before after : α} (held : kept before)
    (read : shape.readItems .value true position before fields (Document.ofItems items) = .ok after) : kept after := by
  induction fields generalizing items position before with
  | nil =>
    unfold Shape.readItems at read
    split_ifs at read
    cases read
    exact held
  | cons field fields ih =>
    rw [List.forall_mem_cons] at keep
    cases items with
    | nil =>
      unfold Document.ofItems Shape.readItems at read
      split_ifs at read
      exact ih keep.2 (List.forall_mem_nil _) held read
    | cons item items =>
      rw [List.forall_mem_cons] at proper
      unfold Document.ofItems Shape.readItems at read
      obtain ⟨update, decoded, rest⟩ := Outcome.bind_ok.mp read
      exact ih keep.2 proper.2 (keep.1 item proper.1 update (Outcome.mapError_ok.mp decoded) before held) rest

/-- A property of the start that every field keeps holds of what is decoded. -/
theorem decoded_keeps {shape : Shape α} (fields : ∀ field ∈ shape.fields, Keeps kept field.read) (start : kept shape.start)
    {value : Json} (proper : Proper value) {record : α} (decoded : shape.decoder.ofValue value = .ok record) :
    kept record := by
  unfold Decoder.ofValue at decoded
  cases proper with
  | null | boolean | number | string =>
    obtain ⟨_, _, refused⟩ := Outcome.bind_ok.mp decoded
    cases refused
  | array proper => exact items_keep fields proper start decoded
  | object distinct proper =>
    change shape.readMembers .value _ true = _ at decoded
    unfold Shape.readMembers at decoded
    obtain ⟨⟨names, after⟩, read, finished⟩ := Outcome.bind_ok.mp decoded
    have held : kept after := members_keep fields proper start read
    dsimp only at finished
    split_ifs at finished
    split at finished
    · cases finished
    · cases finished
      exact held

end Fields

section Reading

/-- What a record is that was read from a value. -/
structure Delivered (record : VideoRecord) : Prop where
  age : ∀ x, record.ageDays = some x → x.isFinite = true
  published : ∀ instant, record.publishedAt = some instant → Regular instant
  metadata : Proper (.object record.metadata)

private theorem option_ok {α : Type} {decoder : Decoder α} {json : Json} {result : Option α}
    (read : decoder.option.ofValue json = .ok result) : result = none ∨ ∃ value, decoder.ofValue json = .ok value ∧
      result = some value := by
  cases json with
  | null =>
    cases read
    exact Or.inl rfl
  | boolean | number | string | array | object =>
    obtain ⟨value, decoded, rfl⟩ := Outcome.map_ok.mp read
    exact Or.inr ⟨value, decoded, rfl⟩

private theorem age_finite {json : Json} (proper : Proper json) {x : Float} (read : Decoder.float.ofValue json = .ok x) :
    x.isFinite = true := by
  cases json with
  | number number =>
    cases read
    exact TextValues.toFloat_finite proper
  | null | boolean | string | array | object => cases read

private theorem instant_regular {json : Json} {instant : Timestamp} (read : Timestamp.decoder.ofValue json = .ok instant) :
    Regular instant := by
  cases json with
  | string text =>
    unfold Decoder.ofValue Timestamp.decoder at read
    dsimp only [Document.ofJson] at read
    split at read
    next parsed =>
      cases read
      exact parse_regular parsed
    next => cases read
  | null | boolean | number | array | object => cases read

private theorem metadata_proper {json : Json} (proper : Proper json) {members : Members}
    (read : Decoder.members.ofValue json = .ok members) : Proper (.object members) := by
  cases json with
  | object held =>
    rw [proper.members_back] at read
    cases read
    exact proper
  | null | boolean | number | string | array => cases read

private theorem other_field {β : Type} {decoder : Decoder β} {set : β → VideoRecord → VideoRecord}
    (same : ∀ value record, (set value record).ageDays = record.ageDays ∧
      (set value record).publishedAt = record.publishedAt ∧ (set value record).metadata = record.metadata) :
    Keeps Delivered (decoder.map set) := by
  refine .map fun _ _ value _ record held => ?_
  obtain ⟨age, published, metadata⟩ := same value record
  exact ⟨age ▸ held.age, published ▸ held.published, metadata ▸ held.metadata⟩

private theorem fields_keep : ∀ field ∈ VideoRecord.shape.fields, Keeps Delivered field.read := by
  simp only [VideoRecord.shape, List.forall_mem_cons]
  refine ⟨?id, ?title, ?views, ?likes, ?comments, ?age, ?published, ?duration, ?metadata, List.forall_mem_nil _⟩
  case age =>
    refine .map fun json proper value decoded record held => ⟨fun x same => ?_, held.published, held.metadata⟩
    rcases option_ok decoded with rfl | ⟨days, found, rfl⟩
    · cases same
    · cases same
      exact age_finite proper found
  case published =>
    refine .map fun json proper value decoded record held => ⟨held.age, fun instant same => ?_, held.metadata⟩
    rcases option_ok decoded with rfl | ⟨read, found, rfl⟩
    · cases same
    · cases same
      exact instant_regular found
  case metadata =>
    refine .map fun json proper value decoded record held => ⟨held.age, held.published, ?_⟩
    exact metadata_proper proper decoded
  all_goals exact other_field fun _ _ => ⟨rfl, rfl, rfl⟩

theorem read_delivered {value : Json} (proper : Proper value) {record : VideoRecord}
    (read : VideoRecord.decoder.ofValue value = .ok record) : Delivered record := by
  refine decoded_keeps fields_keep ?_ proper read
  exact ⟨by rintro _ ⟨⟩, by rintro _ ⟨⟩, .object .nil (List.forall_mem_nil _)⟩

end Reading

section Writing
variable {record : VideoRecord}

/-- The record without a length that is not finite. -/
def settled (record : VideoRecord) : VideoRecord :=
  { record with durationSeconds := record.durationSeconds.filter Float.isFinite }

private theorem positivePart_lost {x : Float} (lost : x.isFinite = false) : Scalar.positivePart x = Scalar.zero := by
  unfold Scalar.positivePart
  exact if_neg fun usable => Bool.false_ne_true (lost.symm.trans (Bool.and_eq_true_iff.mp usable).1)

private theorem settled_metrics (record : VideoRecord) (now : Timestamp) :
    (settled record).rawMetrics now = record.rawMetrics now := by
  have length : Scalar.positivePart ((record.durationSeconds.filter Float.isFinite).getD 0.0) =
      Scalar.positivePart (record.durationSeconds.getD 0.0) := by
    cases record.durationSeconds with
    | none => rfl
    | some x =>
      cases finite : x.isFinite with
      | true => rw [Option.filter_some_pos finite]
      | false =>
        have nothing : Scalar.positivePart (0.0 : Float) = Scalar.zero := by decide
        rw [Option.filter_some_neg (by simp [finite]), Option.getD_none, Option.getD_some, positivePart_lost finite,
          nothing]
  unfold VideoRecord.rawMetrics settled RawMetrics.sanitized
  simp only [length]

private theorem length_written (x : Float) : VideoRecord.length? (.ofFloat x) = (some x).filter Float.isFinite := by
  cases finite : x.isFinite with
  | true =>
    rw [Option.filter_some_pos finite, ofFloat_finite finite]
    rfl
  | false =>
    rw [Option.filter_some_neg (by simp [finite]), Json.ofFloat, finite]
    rfl

private theorem ofFloat_proper (x : Float) : Proper (.ofFloat x) := by
  unfold Json.ofFloat
  split_ifs with finite
  · exact .number fun y same => Number.real.inj same ▸ finite
  · exact .null

private theorem instant_read {text : String} {instant : Timestamp} (parsed : Timestamp.parse text = .ok instant) :
    Timestamp.decoder.option.ofValue (.string text) = .ok (some instant) := by
  refine option_back ?_ (by simp)
  unfold Decoder.ofValue Timestamp.decoder
  dsimp only [Document.ofJson]
  rw [parsed]

private theorem toJson_eq (record : VideoRecord) : record.toJson = .object (
    ("id", .string record.id) :: ("title", .string record.title) :: ("views", .ofUInt64 record.views) ::
      ("likes", .ofUInt64 record.likes) :: ("comments", .ofUInt64 record.comments) ::
      (given "ageDays" (record.ageDays.map .ofFloat) ++
        (given "publishedAt" (record.publishedAt.map fun instant => .string instant.render) ++
          (given "durationSeconds" (record.durationSeconds.map .ofFloat) ++
            (given "metadata" (if record.metadata.isEmpty then none else some (.object record.metadata)) ++ []))))) := by
  obtain ⟨id, title, views, likes, comments, ageDays, publishedAt, durationSeconds, metadata⟩ := record
  cases ageDays <;> cases publishedAt <;> cases durationSeconds <;> cases metadata <;> rfl

section Fields
variable {before after : VideoRecord} {members : Members}

private theorem age_field {age : Option Float} (finite : ∀ x, age = some x → x.isFinite = true) (unset : before.ageDays = none)
    (rest : Written (VideoRecord.shape.fields.drop 6) members { before with ageDays := age } after) :
    Written (VideoRecord.shape.fields.drop 5) (given "ageDays" (age.map .ofFloat) ++ members) before after := by
  refine .maybe { before with ageDays := age } (by decide) (fun written same => ?_) (fun none => ?_) rest
  · obtain ⟨x, rfl, rfl⟩ := Option.map_eq_some_iff.mp same
    exact ⟨_, congrArg (Except.map _) (float_option_back (finite x rfl)), rfl⟩
  · rw [Option.map_eq_none_iff.mp none, ← unset]

private theorem instant_field {published : Option Timestamp} (regular : ∀ instant, published = some instant → Regular instant)
    (unset : before.publishedAt = none)
    (rest : Written (VideoRecord.shape.fields.drop 7) members { before with publishedAt := published } after) :
    Written (VideoRecord.shape.fields.drop 6)
      (given "publishedAt" (published.map fun instant => .string instant.render) ++ members) before after := by
  refine .optional published (by decide) (fun written same => ?_) (fun none => ?_) rest
  · obtain ⟨instant, rfl, rfl⟩ := Option.map_eq_some_iff.mp same
    exact instant_read (regular instant rfl).read_back
  · rw [Option.map_eq_none_iff.mp none, ← unset]

private theorem length_field {length : Option Float} (unset : before.durationSeconds = none)
    (rest : Written (VideoRecord.shape.fields.drop 8) members
      { before with durationSeconds := length.filter Float.isFinite } after) :
    Written (VideoRecord.shape.fields.drop 7) (given "durationSeconds" (length.map .ofFloat) ++ members) before after := by
  refine .maybe _ (by decide) (fun written same => ?_) (fun none => ?_) rest
  · obtain ⟨x, rfl, rfl⟩ := Option.map_eq_some_iff.mp same
    refine ⟨_, congrArg (Except.map _) (ofFloat_proper x).json_back, ?_⟩
    dsimp only
    rw [length_written]
  · rw [Option.map_eq_none_iff.mp none, Option.filter_none, ← unset]

private theorem metadata_field {metadata : Members} (proper : Proper (.object metadata)) (unset : before.metadata = []) :
    Written (VideoRecord.shape.fields.drop 8)
      (given "metadata" (if metadata.isEmpty then none else some (.object metadata)) ++ []) before
      { before with metadata } := by
  refine .optional metadata (by decide) (fun written same => ?_) (fun none => ?_) .done
  · split_ifs at same
    cases same
    exact proper.members_back
  · cases metadata with
    | nil => rw [← unset]
    | cons => cases none

end Fields

/-- A record that was read is read again from what it is written as. -/
theorem Delivered.read_again (delivered : Delivered record) :
    VideoRecord.decoder.ofValue record.toJson = .ok (settled record) := by
  rw [toJson_eq]
  refine Written.decoded ?_ (by decide)
  exact .present rfl <| .made rfl <| .made rfl <| .made rfl <| .made rfl <| age_field delivered.age rfl <|
    instant_field delivered.published rfl <| length_field rfl <| metadata_field delivered.metadata rfl

private theorem toJson_proper (delivered : Delivered record) : Proper record.toJson := by
  rw [toJson_eq]
  refine .object ?_ fun member present => ?_
  · have names : ["id", "title", "views", "likes", "comments", "ageDays", "publishedAt", "durationSeconds",
        "metadata"].Nodup := by decide
    refine names.sublist ?_
    simp only [List.map_cons, List.map_append, List.append_nil]
    refine .cons_cons _ <| .cons_cons _ <| .cons_cons _ <| .cons_cons _ <| .cons_cons _ ?_
    exact (given_keys _ _).append <| (given_keys _ _).append <| (given_keys _ _).append <| given_keys _ _
  · simp only [List.mem_cons, List.mem_append, mem_given, List.not_mem_nil, or_false] at present
    have word (value : UInt64) : Proper (.ofUInt64 value) := .number (by rintro _ ⟨⟩)
    rcases present with rfl | rfl | rfl | rfl | rfl | ⟨_, age⟩ | ⟨_, instant⟩ | ⟨_, length⟩ | ⟨_, metadata⟩
    · exact .string
    · exact .string
    · exact word _
    · exact word _
    · exact word _
    · obtain ⟨x, _, same⟩ := Option.map_eq_some_iff.mp age
      exact same ▸ ofFloat_proper x
    · obtain ⟨_, _, same⟩ := Option.map_eq_some_iff.mp instant
      exact same ▸ .string
    · obtain ⟨x, _, same⟩ := Option.map_eq_some_iff.mp length
      exact same ▸ ofFloat_proper x
    · split_ifs at metadata
      exact Option.some.inj metadata ▸ delivered.metadata

end Writing

/-- What a record that was read is written as is read to a record that is scored the same
at every time. -/
theorem delivered_read_back (value : Json) (proper : Proper value) (record : VideoRecord)
    (read : VideoRecord.decoder.ofValue value = .ok record) :
    Proper record.toJson ∧ ∃ again, VideoRecord.decoder.ofValue record.toJson = .ok again ∧
      again.id = record.id ∧ again.title = record.title ∧ again.metadata = record.metadata ∧
        (∀ now, again.rawMetrics now = record.rawMetrics now) ∧
          ∀ profile weights now,
            ScoredRecord.ofRecord again profile weights now = ScoredRecord.ofRecord record profile weights now := by
  have delivered := read_delivered proper read
  refine ⟨toJson_proper delivered, settled record, delivered.read_again, rfl, rfl, rfl, settled_metrics record,
    fun profile weights now => ?_⟩
  unfold ScoredRecord.ofRecord
  rw [settled_metrics]
  rfl

/-- An instant in a leap second, with a length that is infinite and a counter in text. -/
theorem leap_second_read_back :
    let value : Json := .object [("publishedAt", .string "2016-12-31T18:59:60.25 -05:00"), ("videoId", .string "a"),
      ("views", .string " +12 "), ("likes", .number (.real 3.7)), ("days", .null), ("duration", .string "inf"),
      ("metadata", .object [("id", .null)])]
    let record : VideoRecord :=
      ⟨"a", "", 12, 3, 0, none, some ⟨17166, 86399, 1250000000⟩, some Binary64.infinity, [("id", .null)]⟩
    Proper value ∧ VideoRecord.decoder.ofValue value = .ok record ∧
      ∃ again, VideoRecord.decoder.ofValue record.toJson = .ok again ∧
        ∀ profile weights now,
          ScoredRecord.ofRecord again profile weights now = ScoredRecord.ofRecord record profile weights now := by
  intro value record
  have proper : Proper value := by
    have metadata : Proper (.object [("id", .null)]) := .object (by decide) (List.forall_mem_singleton.mpr .null)
    have likes : Proper (.number (.real 3.7)) := .number fun x same => Number.real.inj same ▸ by decide
    refine .object (by decide) ?_
    simp only [List.forall_mem_cons]
    exact ⟨.string, .string, .string, likes, .null, .string, metadata, List.forall_mem_nil _⟩
  have read : VideoRecord.decoder.ofValue value = .ok record := by
    have parsed : Timestamp.parse "2016-12-31T18:59:60.25 -05:00" = .ok ⟨17166, 86399, 1250000000⟩ := by decide +kernel
    let field := Json.Field.make "publishedAt" .default Timestamp.decoder.option fun value (held : VideoRecord) =>
      { held with publishedAt := value }
    have found : VideoRecord.shape.fields.find? (·.named field.name) = some field := rfl
    have back : field.read.ofValue (.string "2016-12-31T18:59:60.25 -05:00") =
        .ok fun held => { held with publishedAt := some ⟨17166, 86399, 1250000000⟩ } :=
      congrArg (Except.map _) (instant_read parsed)
    have first : VideoRecord.shape.readMember .value ([], VideoRecord.shape.start)
        (some "publishedAt", Document.ofJson (.string "2016-12-31T18:59:60.25 -05:00")) =
          .ok (["publishedAt"], ⟨"", "", 0, 0, 0, none, some ⟨17166, 86399, 1250000000⟩, none, []⟩) :=
      readMember_ok found List.not_mem_nil back
    change VideoRecord.shape.readMembers .value (Document.ofMembers _) true = _
    unfold Shape.readMembers
    rw [Document.ofMembers, List.foldlM_cons, first]
    rfl
  obtain ⟨_, again, back, _, _, _, _, same⟩ := delivered_read_back value proper record read
  exact ⟨proper, read, again, back, same⟩

end ClipRank.Proofs.DeliveredRecords
