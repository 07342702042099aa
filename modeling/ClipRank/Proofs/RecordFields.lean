import ClipRank.Query.Path
import ClipRank.Translator.Prompt
import ClipRank.Proofs.RecordRoundTrip

/-! Paths to a record's own fields. The view of a record starts with the same nine fields,
whatever they hold, and only what is not among them is looked up in the metadata. So a path
that begins with one of them leads into the field or nowhere. The names that the model is
told stand for such paths, and each finds what it is said to find. -/

namespace ClipRank.Proofs.RecordFields
open JsonRoundTrip RecordRoundTrip

section Paths

theorem split_pointless {text : List Char} (pointless : '.' ∉ text) : Path.split text = [text] := by
  induction text with
  | nil => rfl
  | cons c rest ih =>
    rw [List.mem_cons, not_or] at pointless
    rw [Path.split, if_neg (Ne.symm pointless.1), ih pointless.2]

theorem keys_pointless {path : String} (pointless : '.' ∉ path.toList) : Path.keys path = [path] := by
  rw [Path.keys, split_pointless pointless, List.map_singleton, String.ofList_toList]

theorem walk_cons (root : Json) (key : String) (keys : List String) :
    Path.walk? root (key :: keys) = (root.get? key).bind (Path.walk? · keys) :=
  List.foldlM_cons

end Paths

section Own

/-- The keys of the fields that every record has. -/
def ownKeys : List String :=
  ["id", "title", "profile", "rawMetrics", "rates", "components", "compositeScore", "grade", "isShort"]

/-- The view of a record without its metadata. -/
def ownMembers (record : ScoredRecord Float) : Members := [
  ("id", .string record.id), ("title", .string record.title), ("profile", .string record.profile.name),
  ("rawMetrics", record.rawMetrics.toJson), ("rates", record.rates.toJson),
  ("components", record.components.toJson), ("compositeScore", .ofFloat record.compositeScore),
  ("grade", .string record.grade.name), ("isShort", .boolean record.isShort)]

/-- The path begins with an own field, once it is spelled out. What follows may be anything. -/
def IntoRecord (path : String) : Prop :=
  ∃ key ∈ ownKeys, (Path.keys (Path.canonical path)).head? = some key

variable (record : ScoredRecord Float)

private theorem own_found {key : String} (own : key ∈ ownKeys) :
    ∃ value, (Json.object (ownMembers record)).get? key = some value := by
  obtain ⟨member, present, rfl⟩ : ∃ member ∈ ownMembers record, member.1 = key := List.mem_map.mp own
  have found : ((ownMembers record).find? (·.1 = member.1)).isSome := List.find?_isSome.mpr ⟨member, present, by simp⟩
  obtain ⟨first, found⟩ := Option.isSome_iff_exists.mp found
  exact ⟨first.2, congrArg (Option.map Prod.snd) found⟩

private theorem own_shown {key : String} {value : Json}
    (found : (Json.object (ownMembers record)).get? key = some value) : record.toJson.get? key = some value := by
  obtain ⟨member, first, rfl⟩ := Option.map_eq_some_iff.mp found
  have whole : record.toJson = .object (ownMembers record ++
      if record.metadata.isEmpty then [] else [("metadata", Json.object record.metadata)]) := rfl
  rw [whole]
  change ((_ ++ _ : Members).find? _).map _ = _
  rw [List.find?_append, first]
  rfl

/-- The metadata has no part in what such a path leads to. -/
theorem resolve_own {path : String} (own : IntoRecord path) :
    Path.resolve? record.toJson path =
      Path.walk? (.object (ownMembers record)) (Path.keys (Path.canonical path)) := by
  obtain ⟨key, member, first⟩ := own
  obtain ⟨rest, keys⟩ := List.head?_eq_some_iff.mp first
  obtain ⟨value, found⟩ := own_found record member
  have walked : Path.walk? record.toJson (key :: rest) = Path.walk? (.object (ownMembers record)) (key :: rest) := by
    rw [walk_cons, walk_cons, own_shown record found, found]
  have filled : Path.canonical path ≠ "" := by
    intro blank
    have alone : Path.keys "" = [""] := by decide
    rw [blank, alone, List.head?_cons, Option.some.injEq] at first
    rw [← first] at member
    revert member
    decide
  unfold Path.resolve?
  rw [if_neg filled, keys, walked]
  cases reached : Path.walk? (.object (ownMembers record)) (key :: rest) with
  | some value => rfl
  | none =>
    -- Only a single key is looked up in the metadata, and a single key is found here.
    have pointed : '.' ∈ (Path.canonical path).toList := by
      by_contra pointless
      rw [keys_pointless pointless, List.cons.injEq] at keys
      rw [← keys.2, walk_cons, found] at reached
      cases reached
    exact if_pos (List.contains_iff_mem.mpr pointed)

end Own

section Vocabulary

/-- The field of a record that each name of the vocabulary is for. -/
def meanings (record : ScoredRecord Float) : Members := [
  ("title", .string record.title),
  ("days", .number (.real record.rawMetrics.ageDays)),
  ("duration", .number (.real record.rawMetrics.durationSeconds)),
  ("views", .number (.unsigned record.rawMetrics.views)),
  ("likes", .number (.unsigned record.rawMetrics.likes)),
  ("comments", .number (.unsigned record.rawMetrics.comments)),
  ("score", .number (.real record.compositeScore)),
  ("isShort", .boolean record.isShort),
  ("grade", .string record.grade.name),
  ("rates.viewsPerDay", .number (.real record.rates.viewsPerDay)),
  ("rates.viewsPerMinute", .number (.real record.rates.viewsPerMinute)),
  ("rates.engagementRate", .number (.real record.rates.engagementRate)),
  ("rates.likeRate", .number (.real record.rates.likeRate)),
  ("rates.commentRate", .number (.real record.rates.commentRate)),
  ("components.reach", .number (.real record.components.reach)),
  ("components.engagement", .number (.real record.components.engagement)),
  ("components.consistency", .number (.real record.components.consistency)),
  ("components.community", .number (.real record.components.community))]

/-- Whether a value is of a kind. -/
def isOf : FieldKind → Json → Bool
  | .text, .string _ => true
  | .number, .number _ => true
  | .flag, .boolean _ => true
  | _, _ => false

/-- The keys by which the names are looked up, in the order of the vocabulary. -/
private def addresses : List (List String) := [
  ["title"], ["rawMetrics", "ageDays"], ["rawMetrics", "durationSeconds"], ["rawMetrics", "views"],
  ["rawMetrics", "likes"], ["rawMetrics", "comments"], ["compositeScore"], ["isShort"], ["grade"],
  ["rates", "viewsPerDay"], ["rates", "viewsPerMinute"], ["rates", "engagementRate"], ["rates", "likeRate"],
  ["rates", "commentRate"], ["components", "reach"], ["components", "engagement"],
  ["components", "consistency"], ["components", "community"]]

private theorem known_addresses :
    KnownField.all.map (fun field => Path.keys (Path.canonical field.path)) = addresses := by
  decide +kernel

private theorem known_own : ∀ field ∈ KnownField.all, IntoRecord field.path := by
  have begins : ∀ keys ∈ addresses, ∃ key ∈ ownKeys, keys.head? = some key := by decide +kernel
  rw [← known_addresses, List.forall_mem_map] at begins
  exact begins

private theorem meanings_typed (record : ScoredRecord Float) : ∀ field ∈ KnownField.all,
    ∃ value, (meanings record).get? field.path = some value ∧ isOf field.kind value = true := by
  have checked : KnownField.all.all (fun field => ((meanings record).get? field.path).any (isOf field.kind)) = true := rfl
  intro field known
  exact (Option.any_eq_true ..).mp (List.all_eq_true.mp checked field known)

variable {record : ScoredRecord Float}

private theorem walk_known (finite : ∀ x ∈ doubles record, x.isFinite = true) :
    ∀ field ∈ KnownField.all, Path.walk? (.object (ownMembers record)) (Path.keys (Path.canonical field.path)) =
      (meanings record).get? field.path := by
  have numbers : ∀ x ∈ doubles record, Json.ofFloat x = .number (.real x) := fun x present =>
    ofFloat_finite (finite x present)
  simp only [doubles, metricsDoubles, ratesDoubles, componentsDoubles, List.forall_mem_append,
    List.forall_mem_cons] at numbers
  obtain ⟨⟨⟨score, age, duration, _⟩, like, comment, engagement, daily, perMinute, _⟩,
    ⟨reach, engaged, consistent, communal, _⟩, _⟩ := numbers
  rw [← List.map_inj_left]
  calc KnownField.all.map (fun field => Path.walk? (.object (ownMembers record)) (Path.keys (Path.canonical field.path)))
      = addresses.map (Path.walk? (.object (ownMembers record))) := by
        rw [← known_addresses, List.map_map, Function.comp_def]
    _ = KnownField.all.map fun field => (meanings record).get? field.path := by
      simp [addresses, KnownField.all, meanings, ownMembers, Path.walk?, Json.get?, Members.get?,
        RawMetrics.toJson, Rates.toJson, Components.toJson, Json.ofUInt64, score, age, duration, like, comment,
        engagement, daily, perMinute, reach, engaged, consistent, communal]

/-- Every name of the vocabulary finds the field that it is for, and there a value of the
kind that the model is told. It does so under any metadata. -/
theorem vocabulary_sound (finite : ∀ x ∈ doubles record, x.isFinite = true) :
    ∀ field ∈ KnownField.all, ∃ value, (meanings record).get? field.path = some value ∧
      isOf field.kind value = true ∧
      ∀ metadata, Path.resolve? { record with metadata }.toJson field.path = some value := by
  intro field known
  obtain ⟨value, meant, kind⟩ : ∃ value, (meanings record).get? field.path = some value ∧
      isOf field.kind value = true := meanings_typed record field known
  refine ⟨value, meant, kind, fun metadata => ?_⟩
  rw [resolve_own _ (known_own field known)]
  exact (walk_known finite field known).trans meant

theorem clashing_score_found :
    let metadata : Members := [("score", .string "high"), ("compositeScore", .null),
      ("title", .boolean true), ("rates", .object [("viewsPerDay", .array [])])]
    let record : ScoredRecord Float := {
      id := "a", title := "score", profile := .balanced, rawMetrics := ⟨1000, 50, 5, 10.0, 90.0⟩
      rates := ⟨50.0, 5.0, 75.0, 100.0, 666.5, 36.5⟩, components := ⟨50.0, 62.5, 40.0, 9.1, none⟩
      compositeScore := 44.2, grade := .good, isShort := false, metadata }
    let field : KnownField := ⟨"score", .number, "0-100 overall performance score"⟩
    (∀ x ∈ doubles record, x.isFinite = true) ∧ field ∈ KnownField.all ∧
      ∃ value, (meanings record).get? field.path = some value ∧ isOf field.kind value = true ∧
        ∀ metadata, Path.resolve? { record with metadata }.toJson field.path = some value := by
  intro metadata record field
  have finite : ∀ x ∈ doubles record, x.isFinite = true := by decide
  have known : field ∈ KnownField.all := by decide
  exact ⟨finite, known, vocabulary_sound finite field known⟩

end Vocabulary

end ClipRank.Proofs.RecordFields
