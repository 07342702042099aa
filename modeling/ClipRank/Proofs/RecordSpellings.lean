import ClipRank.VideoRecord.Json
import ClipRank.Proofs.JsonReading
import ClipRank.Proofs.JsonRoundTrip
import ClipRank.Proofs.ObjectMembers

/-! The ways to write one delivered record. Some fields have two spellings, and a member under
any other key is passed over. No two fields set the same part of a record, so an object is
read to the same record in every order and spelling of its members, and to none if it gives
a field in both spellings. -/

namespace ClipRank.Proofs.RecordSpellings
open Json JsonReading ObjectMembers

/-- The fields that have two spellings. -/
def spellings : List (String × String) :=
  [("id", "videoId"), ("ageDays", "days"), ("durationSeconds", "duration")]

/-- The keys of all fields in all spellings. -/
def fieldKeys : List String :=
  ["id", "videoId", "title", "views", "likes", "comments", "ageDays", "days", "publishedAt", "durationSeconds",
    "duration", "metadata"]

/-- The two spellings of a field. -/
def Alternate (key other : String) : Prop :=
  (key, other) ∈ spellings ∨ (other, key) ∈ spellings

/-- The same members in any order, each with its value under its key or the other spelling of
it, and among them any members under keys of no field. -/
def Rewritten {β : Type} (members others : List (String × β)) : Prop :=
  ∃ respelled added,
    List.Forall₂ (fun member other => (other.1 = member.1 ∨ Alternate member.1 other.1) ∧ other.2 = member.2)
      members respelled ∧
    (∀ member ∈ added, member.1 ∉ fieldKeys) ∧ others.Perm (respelled ++ added)

/-- The same members and one more, under the other spelling of a key that is there. -/
def Doubled {β : Type} (members others : List (String × β)) : Prop :=
  ∃ member ∈ members, ∃ other value, Alternate member.1 other ∧ others.Perm ((other, value) :: members)

section Fields
variable {key other : String}

private theorem alternate_known (alternate : Alternate key other) :
    ∃ field, VideoRecord.shape.fields.find? (·.named key) = some field ∧
      VideoRecord.shape.fields.find? (·.named other) = some field := by
  simp only [Alternate, spellings, List.mem_cons, Prod.mk.injEq, List.not_mem_nil, or_false] at alternate
  rcases alternate with (⟨rfl, rfl⟩ | ⟨rfl, rfl⟩ | ⟨rfl, rfl⟩) | (⟨rfl, rfl⟩ | ⟨rfl, rfl⟩ | ⟨rfl, rfl⟩)
  all_goals exact ⟨_, rfl, rfl⟩

private theorem shape_keys : JsonRoundTrip.keys VideoRecord.shape = fieldKeys := by
  decide

private theorem foreign_unknown (foreign : key ∉ fieldKeys) :
    VideoRecord.shape.fields.find? (·.named key) = none := by
  apply List.find?_eq_none.mpr
  intro field member named
  apply foreign
  rw [← shape_keys]
  exact List.mem_flatMap.mpr ⟨field, member, (JsonRoundTrip.named_iff field key).mp named⟩

private theorem maps_apart {β γ : Type} {field second : Json.Field VideoRecord} {decoder : Decoder β} {next : Decoder γ}
    {set : β → VideoRecord → VideoRecord} {place : γ → VideoRecord → VideoRecord}
    (first : field.read = decoder.map set) (other : second.read = next.map place)
    (apart : ∀ value found record, set value (place found record) = place found (set value record)) :
    Apart field second := by
  intro origin document update read origin' document' change decoded record
  rw [first] at read
  rw [other] at decoded
  obtain ⟨value, _, rfl⟩ := Outcome.map_ok.mp read
  obtain ⟨found, _, rfl⟩ := Outcome.map_ok.mp decoded
  exact apart value found record

theorem fields_apart : VideoRecord.shape.fields.Pairwise Apart := by
  simp only [VideoRecord.shape, List.pairwise_cons, List.forall_mem_cons, List.not_mem_nil, false_imp_iff, implies_true,
    List.Pairwise.nil, and_true]
  and_intros
  all_goals exact maps_apart rfl rfl fun _ _ _ => rfl

end Fields

section Members
variable {β : Type} {tree : β → Document} {members others : List (String × β)} {origin : Origin} {closed : Bool}
variable {record : VideoRecord}

/-- The members as they stand in a document. -/
def placed (tree : β → Document) (members : List (String × β)) : List (Option String × Document) :=
  members.map fun member => (some member.1, tree member.2)

private theorem read_rewritten (rewritten : Rewritten members others) (intact : ∀ member ∈ others, (tree member.2).intact = true)
    (read : VideoRecord.decoder origin (.object (placed tree members) closed) = .ok record) :
    VideoRecord.decoder origin (.object (placed tree others) closed) = .ok record := by
  obtain ⟨respelled, added, same, foreign, perm⟩ := rewritten
  have renamed : List.Forall₂ (Respelled VideoRecord.shape) (placed tree members) (placed tree respelled) := by
    rw [placed, placed, List.forall₂_map_left_iff, List.forall₂_map_right_iff]
    apply same.imp
    rintro member other ⟨equal | alternate, value⟩
    · exact ⟨member.1, other.1, rfl, rfl, congrArg tree value, by rw [equal]⟩
    · obtain ⟨field, known, also⟩ := alternate_known alternate
      exact ⟨member.1, other.1, rfl, rfl, congrArg tree value, known.trans also.symm⟩
  have unknown : ∀ member ∈ placed tree added, Foreign VideoRecord.shape member := by
    intro _ inside
    obtain ⟨member, listed, rfl⟩ := List.mem_map.mp inside
    have present : member ∈ others := perm.mem_iff.mpr (List.mem_append_right _ listed)
    exact ⟨member.1, rfl, foreign_unknown (foreign member listed), intact member present⟩
  have moved : (placed tree others).Perm (placed tree respelled ++ placed tree added) := by
    rw [placed, placed, placed, ← List.map_append]
    exact perm.map _
  exact decoded_rewritten fields_apart renamed unknown moved read

private theorem refused_doubled (doubled : Doubled members others) :
    ∃ fault, VideoRecord.decoder origin (.object (placed tree others) closed) = .error fault := by
  obtain ⟨member, present, other, value, alternate, perm⟩ := doubled
  obtain ⟨field, known, also⟩ := alternate_known alternate
  have inside : (some member.1, tree member.2) ∈ placed tree members := List.mem_map_of_mem present
  exact doubled_refused known also inside (perm.map _)

end Members

section Values

mutual

private theorem value_intact (value : Json) : (Document.ofJson value).intact = true := by
  cases value with
  | null | boolean | number | string => rfl
  | array items => exact Bool.and_eq_true_iff.mpr ⟨items_intact items, rfl⟩
  | object members => exact Bool.and_eq_true_iff.mpr ⟨members_intact members, rfl⟩
termination_by structural value

private theorem items_intact (items : List Json) : Document.intactItems (Document.ofItems items) = true := by
  cases items with
  | nil => rfl
  | cons item items => exact Bool.and_eq_true_iff.mpr ⟨value_intact item, items_intact items⟩
termination_by structural items

private theorem members_intact (members : Members) : Document.intactMembers (Document.ofMembers members) = true := by
  cases members with
  | nil => rfl
  | cons member members => exact Bool.and_eq_true_iff.mpr ⟨value_intact member.2, members_intact members⟩
termination_by structural members

end

private theorem ofMembers_eq (members : Members) : Document.ofMembers members = placed Document.ofJson members := by
  induction members with
  | nil => rfl
  | cons member members ih =>
    rw [Document.ofMembers, ih]
    rfl

private theorem ofValue_eq (members : Members) : VideoRecord.decoder.ofValue (.object members) =
    VideoRecord.decoder .value (.object (placed Document.ofJson members) true) := by
  rw [← ofMembers_eq]
  rfl

end Values

section Texts
variable {text : String} {members : List (String × Document)}

/-- The tree of an object. -/
def objectOf (members : List (String × Document)) : Document :=
  .object (placed id members) true

/-- The grammar holds throughout the phrase. -/
private def Whole : Phrase → Prop
  | .value document => document.intact = true
  | .items documents => Document.intactItems documents = true
  | .member _ document => document.intact = true
  | .members members => Document.intactMembers members = true

private theorem reads_whole {phrase : Phrase} {text rest : List Char} (reads : Reads phrase text rest) : Whole phrase := by
  induction reads with
  | blank _ _ ih => exact ih
  | word known =>
    simp only [words, List.mem_cons, Prod.mk.injEq, List.not_mem_nil, or_false] at known
    rcases known with ⟨_, rfl⟩ | ⟨_, rfl⟩ | ⟨_, rfl⟩
    all_goals rfl
  | number | string | emptyArray | emptyObject => rfl
  | array _ ih | object _ ih => exact Bool.and_eq_true_iff.mpr ⟨ih, rfl⟩
  | lastItem _ _ ih | lastMember _ _ ih => exact Bool.and_eq_true_iff.mpr ⟨ih, rfl⟩
  | item _ _ _ first others | members _ _ _ first others => exact Bool.and_eq_true_iff.mpr ⟨first, others⟩
  | member _ _ _ ih => exact ih

private theorem placed_intact (intact : Document.intactMembers (placed id members) = true) :
    ∀ member ∈ members, member.2.intact = true := by
  induction members with
  | nil => exact List.forall_mem_nil _
  | cons member members ih =>
    obtain ⟨first, others⟩ := Bool.and_eq_true_iff.mp intact
    exact List.forall_mem_cons.mpr ⟨first, ih others⟩

private theorem text_intact (found : Document.read text = (objectOf members, true)) :
    ∀ member ∈ members, member.2.intact = true := by
  unfold Document.read at found
  cases start : Document.readStart text.toList with
  | mk document ends =>
    rw [start] at found
    obtain ⟨rfl, complete⟩ := Prod.mk.inj found
    obtain ⟨rest, rfl, _⟩ := (Option.any_eq_true ..).mp complete
    have whole := reads_whole (readStart_iff.mp start)
    exact placed_intact (Bool.and_eq_true_iff.mp whole).1

private theorem ofText_eq (found : Document.read text = (objectOf members, true)) :
    VideoRecord.decoder.ofText text = VideoRecord.decoder (.text 128) (objectOf members) := by
  unfold Decoder.ofText
  rw [found]
  dsimp only
  cases VideoRecord.decoder (.text 128) (objectOf members) with
  | error fault => rfl
  | ok record => rfl

end Texts

/-- An object that is read to a record, as a value or from text, is read to the same record
in every order and spelling of its members and with any members of no field among them. With
a field in both spellings it is refused. -/
theorem read_in_any_spelling :
    (∀ (members : Members) (record : VideoRecord), VideoRecord.decoder.ofValue (.object members) = .ok record →
      (∀ others, Rewritten members others → VideoRecord.decoder.ofValue (.object others) = .ok record) ∧
      ∀ others, Doubled members others → ∃ fault, VideoRecord.decoder.ofValue (.object others) = .error fault) ∧
    ∀ (text : String) (members : List (String × Document)) (record : VideoRecord),
      Document.read text = (objectOf members, true) → VideoRecord.decoder.ofText text = .ok record →
        ∀ other others, Document.read other = (objectOf others, true) →
          (Rewritten members others → VideoRecord.decoder.ofText other = .ok record) ∧
          (Doubled members others → ∃ fault, VideoRecord.decoder.ofText other = .error fault) := by
  constructor
  · intro members record read
    rw [ofValue_eq] at read
    constructor
    · intro others rewritten
      rw [ofValue_eq]
      exact read_rewritten rewritten (fun member _ => value_intact member.2) read
    · intro others doubled
      rw [ofValue_eq]
      exact refused_doubled doubled
  · intro text members record tree read other others found
    rw [ofText_eq tree] at read
    rw [ofText_eq found]
    constructor
    · intro rewritten
      exact read_rewritten rewritten (text_intact found) read
    · intro doubled
      exact refused_doubled doubled

private theorem short_tree : Document.read "\x7b\"id\":\"a\"\x7d" = (objectOf [("id", .string (some "a"))], true) := by
  have start : Document.readStart "\x7b\"id\":\"a\"\x7d".toList = (objectOf [("id", .string (some "a"))], some []) :=
    readStart_iff.mpr (.object (.lastMember (.member rfl rfl (.string rfl)) rfl))
  unfold Document.read
  rw [start]
  rfl

private theorem other_tree : Document.read "\x7b\"x\":[],\"videoId\":\"a\"\x7d" =
    (objectOf [("x", .array [] true), ("videoId", .string (some "a"))], true) := by
  have start : Document.readStart "\x7b\"x\":[],\"videoId\":\"a\"\x7d".toList =
      (objectOf [("x", .array [] true), ("videoId", .string (some "a"))], some []) :=
    readStart_iff.mpr (.object (.members (.member rfl rfl (.emptyArray rfl)) rfl
      (.lastMember (.member rfl rfl (.string rfl)) rfl)))
  unfold Document.read
  rw [start]
  rfl

/-- Members of a value and of a text in another order and spelling, and one of the keys
doubled. -/
theorem reversed_spellings_read :
    let length : Json := .string "PT4M13S"
    let members : Members := [("id", .string "a"), ("days", .number (.unsigned 4)), ("likes", .string " 30 "),
      ("duration", length)]
    let others : Members := [("x", .array [.null]), ("durationSeconds", length), ("likes", .string " 30 "),
      ("ageDays", .number (.unsigned 4)), ("videoId", .string "a")]
    let record : VideoRecord := ⟨"a", "", 0, 30, 0, some 4.0, none, some 253.0, []⟩
    let short : VideoRecord := ⟨"a", "", 0, 0, 0, none, none, none, []⟩
    (VideoRecord.decoder.ofValue (.object members) = .ok record ∧ Rewritten members others ∧
      VideoRecord.decoder.ofValue (.object others) = .ok record ∧ Doubled members (("ageDays", .null) :: members) ∧
      ∃ fault, VideoRecord.decoder.ofValue (.object (("ageDays", .null) :: members)) = .error fault) ∧
    VideoRecord.decoder.ofText "\x7b\"id\":\"a\"\x7d" = .ok short ∧
      VideoRecord.decoder.ofText "\x7b\"x\":[],\"videoId\":\"a\"\x7d" = .ok short := by
  intro length members others record short
  have id : Alternate "id" "videoId" := Or.inl (by decide)
  have days : Alternate "days" "ageDays" := Or.inr (by decide)
  have duration : Alternate "duration" "durationSeconds" := Or.inr (by decide)
  have unknown : "x" ∉ fieldKeys := by
    decide
  constructor
  · have read : VideoRecord.decoder.ofValue (.object members) = .ok record := by
      rfl
    have rewritten : Rewritten members others := by
      let respelled : Members := [("videoId", .string "a"), ("ageDays", .number (.unsigned 4)), ("likes", .string " 30 "),
        ("durationSeconds", length)]
      let added : Members := [("x", .array [.null])]
      have reversed : others.Perm (respelled ++ added) := List.reverse_perm (respelled ++ added)
      refine ⟨respelled, added, ?_, List.forall_mem_singleton.mpr unknown, reversed⟩
      exact .cons ⟨Or.inr id, rfl⟩ <| .cons ⟨Or.inr days, rfl⟩ <| .cons ⟨Or.inl rfl, rfl⟩ <|
        .cons ⟨Or.inr duration, rfl⟩ .nil
    have doubled : Doubled members (("ageDays", .null) :: members) :=
      ⟨("days", .number (.unsigned 4)), by simp [members], "ageDays", .null, days, .refl _⟩
    obtain ⟨same, refused⟩ := read_in_any_spelling.1 members record read
    exact ⟨read, rewritten, same others rewritten, doubled, refused _ doubled⟩
  · have read : VideoRecord.decoder.ofText "\x7b\"id\":\"a\"\x7d" = .ok short := by
      rw [ofText_eq short_tree]
      rfl
    have rewritten : Rewritten [("id", Document.string (some "a"))]
        [("x", .array [] true), ("videoId", .string (some "a"))] :=
      ⟨[("videoId", .string (some "a"))], [("x", .array [] true)], .cons ⟨Or.inr id, rfl⟩ .nil,
        List.forall_mem_singleton.mpr unknown, .swap _ _ _⟩
    exact ⟨read, (read_in_any_spelling.2 _ _ _ short_tree read _ _ other_tree).1 rewritten⟩

end ClipRank.Proofs.RecordSpellings
