import Mathlib.Data.List.TakeWhile
import ClipRank.Service
import ClipRank.Proofs.JsonReading
import ClipRank.Proofs.Outcome
import ClipRank.Proofs.TopLevelSpans

/-! Where the object of a reply is found. Text that is accepted as one object is
found whatever stands around it, as long as the text before it holds no object of
its own and leaves no brace open. Of an object that is cut off nothing but an inner
object can be found. In any text an object is found just when one begins at some
brace, and it is the first of those that are a span, or else the first of all. -/

namespace ClipRank.Proofs.ObjectExtraction
open Json JsonReading SpanGrammar TopLevelSpans

private theorem readWord_other {word text : List Char} {document found : Document} {rest : Option (List Char)}
    (read : readWord word document text = (found, rest)) : found = document ∨ found = .broken := by
  unfold readWord at read
  split at read <;> cases read
  · exact Or.inl rfl
  · exact Or.inr rfl

/-- The reader knows what follows an object just when the object is closed. -/
private theorem readValue_closed {fuel : Nat} {text : List Char} {members : List (Option String × Document)}
    {closed : Bool} {rest : Option (List Char)} (read : readValue fuel text = (.object members closed, rest)) :
    closed = rest.isSome := by
  cases fuel with
  | zero => cases read
  | succ fuel =>
    unfold readValue at read
    split at read
    · cases read
    next c body start =>
      split at read
      · split at read
        · cases read; rfl
        · split at read
          · cases read; rfl
          · cases read; rfl
      split at read
      · split at read
        · cases read
        · split at read <;> cases read
      split at read
      · split at read <;> cases read
      split at read
      · rcases readWord_other read with same | same <;> cases same
      split at read
      · rcases readWord_other read with same | same <;> cases same
      split at read
      · rcases readWord_other read with same | same <;> cases same
      split at read <;> cases read

/-- Only an object that is closed has an object for its value. -/
private theorem object_of_decoded {origin : Origin} {document : Document} {members : Members}
    (decoded : Decoder.json origin document = .ok (.object members)) :
    ∃ documents, document = .object documents true := by
  cases document with
  | object documents closed =>
    cases closed with
    | true => exact ⟨documents, rfl⟩
    | false =>
      simp only [Decoder.json, Outcome.bind_ok] at decoded
      obtain ⟨_, _, _, _, refused⟩ := decoded
      cases refused
  | array items closed =>
    simp only [Decoder.json, Outcome.bind_ok] at decoded
    obtain ⟨_, _, _, _, wrong⟩ := decoded
    split at wrong <;> cases wrong
  | number value => cases value <;> cases decoded
  | string value => cases value <;> cases decoded
  | null | boolean | broken => cases decoded

private theorem decoded_of_object {origin : Origin} {documents : List (Option String × Document)} {value : Json}
    (decoded : Decoder.json origin (.object documents true) = .ok value) : ∃ members, value = .object members := by
  simp only [Decoder.json, Outcome.bind_ok] at decoded
  obtain ⟨_, _, members, _, same⟩ := decoded
  cases same
  exact ⟨_, rfl⟩

/-- The text begins with a whole object that has this value. -/
def Begins (text : List Char) (value : Json) : Prop :=
  ∃ documents rest, Reads (.value (.object documents true)) text rest ∧
    Decoder.json (.text 128) (.object documents true) = .ok value

theorem objectAtStart_iff {text : List Char} {value : Json} :
    Query.objectAtStart? text = some value ↔ Begins text value := by
  constructor
  · intro found
    unfold Query.objectAtStart? Query.object? at found
    split at found
    next members decoded =>
      cases found
      obtain ⟨documents, same⟩ := object_of_decoded decoded
      cases read : Document.readStart text with
      | mk document ends =>
        simp only [read] at same decoded
        subst same
        obtain ⟨rest, rfl⟩ := Option.isSome_iff_exists.mp (readValue_closed read).symm
        exact ⟨documents, rest, readStart_iff.mp read, decoded⟩
    next => cases found
  · rintro ⟨documents, rest, reads, decoded⟩
    obtain ⟨members, rfl⟩ := decoded_of_object decoded
    simp only [Query.objectAtStart?, readStart_iff.mpr reads, decoded, Query.object?]

theorem ofText_ok {α : Type} {decoder : Decoder α} {text : String} {value : α} :
    Decoder.ofText decoder text = .ok value ↔ ∃ document rest, Reads (.value document) text.toList rest ∧
      skipSpace rest = [] ∧ decoder (.text 128) document = .ok value := by
  unfold Decoder.ofText Document.read
  cases read : Document.readStart text.toList with
  | mk document ends =>
    constructor
    · intro accepted
      dsimp only at accepted
      split at accepted
      · cases accepted
      next found decoded =>
        split at accepted
        next complete =>
          cases accepted
          cases ends with
          | none => cases complete
          | some rest => exact ⟨document, rest, readStart_iff.mp read, List.isEmpty_iff.mp complete, decoded⟩
        next => cases accepted
    · rintro ⟨other, rest, reads, blank, decoded⟩
      rw [← readStart_iff, read] at reads
      cases reads
      simp [decoded, blank]

/-- A text that is accepted as one object, from its first brace to its last one. -/
structure Accepted (text : String) (value : Json) : Prop where
  opens : text.toList.head? = some '\x7b'
  closes : text.toList.getLast? = some '\x7d'
  accepted : Decoder.ofText Decoder.json text = .ok value

/-- Such a text is balanced text in braces, and the grammar reads it to its end. -/
private theorem Accepted.whole {text : String} {value : Json} (accepted : Accepted text value) :
    ∃ inner documents, text.toList = '\x7b' :: (inner ++ ['\x7d']) ∧ Balanced inner ∧
      Reads (.value (.object documents true)) text.toList [] ∧
      Decoder.json (.text 128) (.object documents true) = .ok value := by
  obtain ⟨opens, closes, accepted⟩ := accepted
  obtain ⟨document, rest, reads, blank, decoded⟩ := ofText_ok.mp accepted
  obtain ⟨body, start⟩ := List.head?_eq_some_iff.mp opens
  rw [start] at reads closes
  obtain ⟨⟨documents, rfl⟩, inner, same, balanced⟩ := reads.opened
  have nothing : rest = [] := by
    rcases rest.eq_nil_or_concat with rfl | ⟨front, last, rfl⟩
    · rfl
    · have split : '\x7b' :: body = ('\x7b' :: inner ++ '\x7d' :: front) ++ [last] := by simp [same]
      rw [split, List.getLast?_concat] at closes
      have brace : last = '\x7d' := Option.some.inj closes
      have space : isSpace last = true := List.dropWhile_eq_nil_iff.mp blank last (by simp)
      rw [brace] at space
      cases space
  subst nothing
  exact ⟨inner, documents, by rw [start, same], balanced, start ▸ reads, decoded⟩

/-- Text that leaves no brace open and none of whose spans is an object. -/
def Harmless (text : String) : Prop :=
  openAfter none 0 text.toList = none ∧ ∀ span ∈ Span.ofText text.toList, Query.objectOfSpan? span = none

theorem harmless_of_braceless {text : String} (braceless : '\x7b' ∉ text.toList) : Harmless text := by
  obtain ⟨nothing, closed⟩ := scan_without_brace braceless 0
  exact ⟨closed, by simp [Span.ofText, nothing]⟩

theorem findObject_embedded {before text : String} {value : Json} (harmless : Harmless before)
    (accepted : Accepted text value) (after : String) :
    Query.findObject? (before ++ text ++ after) = some value := by
  obtain ⟨closed, objectless⟩ := harmless
  obtain ⟨inner, documents, same, balanced, _, decoded⟩ := accepted.whole
  obtain ⟨members, rfl⟩ := decoded_of_object decoded
  have span (position : Nat) : Query.objectOfSpan? ⟨position, text.toList⟩ = some (.object members) := by
    simp only [Query.objectOfSpan?, String.ofList_toList, accepted.accepted, Query.object?]
  have object (position : Nat) (rest : List Char) : Span.scan none position (text.toList ++ rest) =
      ⟨position, text.toList⟩ :: Span.scan none (position + Span.byteLength text.toList) rest := by
    simpa [same] using scan_object balanced position rest
  have spans : Span.ofText (before ++ text ++ after).toList = Span.ofText before.toList ++
      ⟨Span.byteLength before.toList, text.toList⟩ ::
        Span.scan none (Span.byteLength before.toList + Span.byteLength text.toList) after.toList := by
    rw [Span.ofText, String.toList_append, String.toList_append, List.append_assoc, scan_append, closed, Nat.zero_add,
      object, Span.ofText]
  have first : (Span.ofText before.toList).findSome? Query.objectOfSpan? = none :=
    List.findSome?_eq_none_iff.mpr objectless
  simp only [Query.findObject?, spans, List.findSome?_append, first, List.findSome?_cons, span, Option.none_or]

/-- The object that a reply was asked for is found in it, and the query that it is
has the outcome of the object sent as such: the prose around it makes no difference
to the result, to what is counted or to the response. -/
theorem embedded_object_runs :
    (∀ before : String, '\x7b' ∉ before.toList → Harmless before) ∧
    ∀ (before text after : String) (value : Json), Harmless before → Accepted text value →
      Query.findObject? (before ++ text ++ after) = some value ∧
      (∀ records, Query.runText records (before ++ text ++ after) =
        ((Query.ofJson value).mapError .grammar).map (Query.execute records)) ∧
      (∀ records, Metered.runText records (before ++ text ++ after) = Metered.runJson records value) ∧
      ∀ (service : Service) surroundings videos overrides,
        service.perform surroundings (.query videos (.string (before ++ text ++ after)) overrides) =
          service.perform surroundings (.query videos value overrides) := by
  refine ⟨fun _ => harmless_of_braceless, fun before text after value harmless accepted => ?_⟩
  have found := findObject_embedded harmless accepted after
  have query : Query.ofText (before ++ text ++ after) = (Query.ofJson value).mapError .grammar := by
    simp only [Query.ofText, found]
  obtain ⟨_, documents, _, _, _, decoded⟩ := accepted.whole
  obtain ⟨members, rfl⟩ := decoded_of_object decoded
  refine ⟨found, fun records => ?_, fun records => ?_, fun service surroundings videos overrides => ?_⟩
  · rw [Query.runText, query]
  · rw [Metered.runText, query, Metered.runJson]
  · simp only [Service.perform, Service.performBy, Metered.runGiven, Metered.runText, query, Metered.runJson]

/-- A query with a limit and no filters, as it is used in the cases below. -/
theorem limited_accepted :
    Accepted "\x7b\"limit\": 1, \"filters\": \x7b\x7d\x7d"
      (.object [("limit", .number (.unsigned 1)), ("filters", .object [])]) := by
  refine ⟨rfl, rfl, ?_⟩
  simp [Decoder.ofText, Document.read, Document.readStart, readValue, skipSpace, isSpace, readMembers, readString?,
    readPieces?, joinPieces?, readNumeral?, readNumeral?.readFraction?, readNumeral?.readPower?, Decoder.json,
    Decoder.jsonMembers, Origin.enter, Numeral.value?, Numeral.absorb, Members.ofList, Members.insert, bind,
    Except.bind, pure, Except.pure]

theorem query_found_after_braces :
    Harmless "Use \x7bfield\x7d: " ∧
      Query.findObject? ("Use \x7bfield\x7d: " ++ "\x7b\"limit\": 1, \"filters\": \x7b\x7d\x7d" ++ " \x7d\x7b") =
        some (.object [("limit", .number (.unsigned 1)), ("filters", .object [])]) := by
  have harmless : Harmless "Use \x7bfield\x7d: " := by
    refine ⟨rfl, ?_⟩
    simp [Span.ofText, Span.scan, Span.Partial.read, Query.objectOfSpan?, Decoder.ofText, Document.read,
      Document.readStart, readValue, skipSpace, isSpace, readMembers, Decoder.json, Decoder.jsonMembers, Origin.enter,
      Query.object?, bind, Except.bind]
  exact ⟨harmless, (embedded_object_runs.2 _ _ _ _ harmless limited_accepted).1⟩

/-- The first whole object in a text, from the left, has this value. -/
inductive FirstObject : List Char → Json → Prop where
  | here {text value} (begins : Begins ('\x7b' :: text) value) : FirstObject ('\x7b' :: text) value
  | later {c text value} (passed : c = '\x7b' → ∀ other, ¬ Begins (c :: text) other) (rest : FirstObject text value) :
      FirstObject (c :: text) value

private theorem braceSuffixes_first {text : List Char} {value : Json} :
    (Query.braceSuffixes text).findSome? Query.objectAtStart? = some value ↔ FirstObject text value := by
  induction text with
  | nil => exact ⟨fun found => (by cases found), fun first => (by cases first)⟩
  | cons c text ih =>
    by_cases brace : c = '\x7b'
    · subst brace
      rw [Query.braceSuffixes, if_pos rfl, List.findSome?_cons]
      cases found : Query.objectAtStart? ('\x7b' :: text) with
      | none =>
        have passed (other : Json) : ¬ Begins ('\x7b' :: text) other := by
          rw [← objectAtStart_iff, found]
          exact fun absent => by cases absent
        rw [ih]
        exact ⟨.later fun _ => passed, fun first => by
          cases first with
          | here begins => exact absurd begins (passed _)
          | later _ rest => exact rest⟩
      | some other =>
        have begins := objectAtStart_iff.mp found
        constructor
        · rintro same
          cases same
          exact .here begins
        · intro first
          cases first with
          | here again => rw [← objectAtStart_iff, found] at again; exact again
          | later passed _ => exact absurd begins (passed rfl other)
    · rw [Query.braceSuffixes, if_neg brace, ih]
      refine ⟨.later fun same => absurd same brace, fun first => ?_⟩
      cases first with
      | here => exact absurd rfl brace
      | later _ rest => exact rest

/-- A span that does not close in a text does not close in a part of it either. -/
private theorem scan_unclosed {start : Nat} {first second : List Char} (balanced : Balanced (first ++ second)) :
    Span.scan none start ('\x7b' :: first) = [] := by
  have advances : advance? ⟨start, 0, .outside, ['\x7b']⟩ (first ++ second) = some _ := advance_balanced balanced
  rw [advance_append] at advances
  obtain ⟨middle, found, _⟩ := Option.bind_eq_some_iff.mp advances
  have nothing := scan_advance found (start + 1) []
  rw [List.append_nil] at nothing
  exact nothing

/-- A cut-off object holds no span, and what stands at its brace is not an object. -/
private theorem Accepted.cut_off {text cut : String} {value : Json} (accepted : Accepted text value)
    (start : cut.toList <+: text.toList) (proper : cut ≠ text) :
    Span.ofText cut.toList = [] ∧ ∀ other, ¬ Begins cut.toList other := by
  obtain ⟨inner, documents, same, balanced, reads, _⟩ := accepted.whole
  obtain ⟨rest, whole⟩ := start
  have missing : rest ≠ [] := by
    rintro rfl
    exact proper (String.toList_injective (by simpa using whole))
  constructor
  · cases held : cut.toList with
    | nil => rfl
    | cons c front =>
      rw [same, held, List.cons_append, List.cons.injEq] at whole
      obtain ⟨rfl, whole⟩ := whole
      obtain ⟨middle, last, rfl⟩ := rest.eq_nil_or_concat.resolve_left missing
      rw [List.concat_eq_append, ← List.append_assoc] at whole
      have inside : front ++ middle = inner := (List.append_inj' whole rfl).1
      subst inside
      exact scan_unclosed balanced
  · -- An object is closed, so it would be found again in the whole text and end before it.
    rintro other ⟨members, behind, again, _⟩
    have longer := again.extends (Or.inl rfl) rest
    rw [whole, ← readStart_iff, readStart_iff.mpr reads] at longer
    simp [missing] at longer

private theorem FirstObject.brace {text : List Char} {value : Json} (first : FirstObject text value) :
    '\x7b' ∈ text := by
  induction first with
  | here _ => exact List.mem_cons_self
  | later _ _ ih => exact List.mem_cons_of_mem _ ih

/-- Where no object begins, the first object of a text is that of the rest. -/
private theorem FirstObject.tail_iff {text : List Char} {value : Json} (passed : ∀ other, ¬ Begins text other) :
    FirstObject text value ↔ FirstObject text.tail value := by
  constructor
  · intro first
    cases first with
    | here begins => exact absurd begins (passed _)
    | later _ rest => exact rest
  · intro first
    cases text with
    | nil => cases first
    | cons c rest => exact .later (fun _ => passed) first

/-- What is left of a reply that was cut off is never taken for the object that was
asked for, but it can hold a whole inner object. The first such object, and nothing
else, is then taken for the query. -/
theorem cut_off_object_runs_inner (text cut : String) (value : Json) (accepted : Accepted text value)
    (start : cut.toList <+: text.toList) (proper : cut ≠ text) :
    (∀ inner, Query.findObject? cut = some inner ↔ FirstObject cut.toList.tail inner) ∧
    (Query.ofText cut = .error .noObject ↔ ∀ inner, ¬ FirstObject cut.toList.tail inner) ∧
    (∀ inner, FirstObject cut.toList.tail inner → Query.ofText cut = (Query.ofJson inner).mapError .grammar) ∧
    (∀ records inner, FirstObject cut.toList.tail inner →
      Query.runText records cut = ((Query.ofJson inner).mapError .grammar).map (Query.execute records)) ∧
    ('\x7b' ∉ cut.toList.tail → ∀ records, Query.runText records cut = .error .noObject) := by
  obtain ⟨spanless, passed⟩ := accepted.cut_off start proper
  have found (inner : Json) : Query.findObject? cut = some inner ↔ FirstObject cut.toList.tail inner := by
    rw [← FirstObject.tail_iff passed, ← braceSuffixes_first]
    simp only [Query.findObject?, spanless, List.findSome?_nil]
  have nothing : Query.ofText cut = .error .noObject ↔ ∀ inner, ¬ FirstObject cut.toList.tail inner := by
    simp only [← found, Query.ofText]
    cases Query.findObject? cut with
    | none => simp
    | some inner => cases outcome : Query.ofJson inner <;> simp [outcome, Except.mapError]
  have taken (inner : Json) (first : FirstObject cut.toList.tail inner) :
      Query.ofText cut = (Query.ofJson inner).mapError .grammar := by
    simp only [Query.ofText, (found inner).mpr first]
  refine ⟨found, nothing, taken, fun records inner first => ?_, fun flat records => ?_⟩
  · rw [Query.runText, taken inner first]
  · rw [Query.runText, nothing.mpr fun inner first => flat first.brace]
    rfl

theorem cut_off_filters_run :
    FirstObject "\"limit\": 1, \"filters\": \x7b\x7d".toList (.object []) ∧
      Query.ofText "\x7b\"limit\": 1, \"filters\": \x7b\x7d" = (Query.ofJson (.object [])).mapError .grammar := by
  have first : FirstObject "\"limit\": 1, \"filters\": \x7b\x7d".toList (.object []) := by
    rw [← braceSuffixes_first]
    simp [Query.braceSuffixes, Query.objectAtStart?, Document.readStart, readValue, skipSpace, isSpace, Decoder.json,
      Decoder.jsonMembers, Origin.enter, Query.object?, bind, Except.bind, Members.ofList]
  exact ⟨first, (cut_off_object_runs_inner _ "\x7b\"limit\": 1, \"filters\": \x7b\x7d" _ limited_accepted
    (by decide) (by decide)).2.2.1 _ first⟩

/-- Not every reply that was cut off is rejected: here the limit is lost, and what is
left of the filters is taken for a query that every record answers. -/
theorem cut_off_object_accepted :
    Accepted "\x7b\"limit\": 1, \"filters\": \x7b\x7d\x7d"
        (.object [("limit", .number (.unsigned 1)), ("filters", .object [])]) ∧
      "\x7b\"limit\": 1, \"filters\": \x7b\x7d".toList <+: "\x7b\"limit\": 1, \"filters\": \x7b\x7d\x7d".toList ∧
      "\x7b\"limit\": 1, \"filters\": \x7b\x7d" ≠ "\x7b\"limit\": 1, \"filters\": \x7b\x7d\x7d" ∧
      Query.ofText "\x7b\"limit\": 1, \"filters\": \x7b\x7d" = .ok .empty ∧
      ¬ ∀ (text cut : String) (value : Json), Accepted text value → cut.toList <+: text.toList → cut ≠ text →
        Query.ofText cut = .error .noObject := by
  have runs : Query.ofText "\x7b\"limit\": 1, \"filters\": \x7b\x7d" = .ok .empty := by
    simp [Query.ofText, Query.findObject?, Span.ofText, Span.scan, Span.Partial.read, Query.braceSuffixes,
      Query.objectAtStart?, Document.readStart, readValue, skipSpace, isSpace, readMembers, readString?, readPieces?,
      joinPieces?, readNumeral?, readNumeral?.readFraction?, readNumeral?.readPower?, Numeral.value?, Numeral.absorb,
      Decoder.json, Decoder.jsonMembers, Origin.enter, Query.object?, bind, Except.bind, Members.ofList, pure,
      Except.pure, Query.ofJson, Members.get?, Query.readFilters, Query.readSort, Query.empty, Except.mapError]
  refine ⟨limited_accepted, by decide, by decide, runs, fun rejected => ?_⟩
  have refused := rejected _ _ _ limited_accepted (by decide) (by decide) |>.symm.trans runs
  cases refused

/-- An object with this value begins at an offset, which is given in bytes. -/
def ObjectAt (text : List Char) (offset : Nat) (value : Json) : Prop :=
  ∃ before after, text = before ++ '\x7b' :: after ∧ offset = Span.byteLength before ∧ Begins ('\x7b' :: after) value

structure FirstAt (text : List Char) (offset : Nat) (value : Json) : Prop where
  found : ObjectAt text offset value
  first : ∀ earlier other, earlier < offset → ¬ ObjectAt text earlier other

/-- The span is accepted as an object, and no span before it is. -/
structure FirstSpan (text : List Char) (span : Span) (value : Json) : Prop where
  outermost : TopLevel text span
  accepted : Accepted (String.ofList span.body) value
  first : ∀ earlier other, TopLevel text earlier → earlier.start < span.start →
    ¬ Accepted (String.ofList earlier.body) other

private theorem FirstObject.at {text : List Char} {value : Json} (first : FirstObject text value) :
    ∃ offset, FirstAt text offset value := by
  induction first with
  | @here text value begins =>
    exact ⟨0, ⟨[], text, rfl, rfl, begins⟩, fun _ _ below => absurd below (Nat.not_lt_zero _)⟩
  | @later c text value passed _ ih =>
    obtain ⟨offset, ⟨before, after, rfl, rfl, begins⟩, first⟩ := ih
    refine ⟨Span.byteLength (c :: before), ⟨c :: before, after, rfl, rfl, begins⟩, ?_⟩
    rintro earlier other below ⟨between, rest, split, rfl, starts⟩
    cases between with
    | nil =>
      obtain ⟨rfl, rfl⟩ := List.cons.inj split
      exact passed rfl other starts
    | cons d between =>
      rw [List.cons_append, List.cons.injEq] at split
      obtain ⟨rfl, split⟩ := split
      apply first (Span.byteLength between) other
      · simpa only [Span.byteLength, Nat.add_lt_add_iff_left] using below
      · exact ⟨between, rest, split, rfl, starts⟩

private theorem FirstAt.object {text : List Char} {offset : Nat} {value : Json} (first : FirstAt text offset value) :
    FirstObject text value := by
  obtain ⟨⟨before, after, rfl, rfl, begins⟩, first⟩ := first
  induction before with
  | nil => exact .here begins
  | cons c before ih =>
    have size : 0 < c.utf8Size := c.utf8Size_pos
    apply FirstObject.later
    · rintro rfl other starts
      exact first 0 other (by simp only [Span.byteLength]; omega) ⟨[], _, rfl, rfl, starts⟩
    · apply ih
      rintro earlier other below ⟨between, rest, split, rfl, starts⟩
      refine first (Span.byteLength (c :: between)) other ?_ ⟨c :: between, rest, congrArg (c :: ·) split, rfl, starts⟩
      simpa only [Span.byteLength, Nat.add_lt_add_iff_left] using below

private theorem firstObject_iff {text : List Char} {value : Json} :
    FirstObject text value ↔ ∃ offset, FirstAt text offset value :=
  ⟨FirstObject.at, fun ⟨_, first⟩ => first.object⟩

private theorem exists_first {text : List Char} {offset : Nat} {value : Json} (found : ObjectAt text offset value) :
    ∃ offset value, FirstAt text offset value := by
  induction offset using Nat.strongRecOn generalizing value with
  | ind offset ih =>
    by_cases earlier : ∃ before other, before < offset ∧ ObjectAt text before other
    · obtain ⟨before, other, below, begins⟩ := earlier
      exact ih before below begins
    · exact ⟨offset, value, found, fun before other below begins => earlier ⟨before, other, below, begins⟩⟩

private theorem Accepted.object {text : String} {value : Json} (accepted : Accepted text value) :
    ∃ members, value = .object members := by
  obtain ⟨_, documents, _, _, _, decoded⟩ := accepted.whole
  exact decoded_of_object decoded

private theorem Accepted.begins {text : String} {value : Json} (accepted : Accepted text value) (after : List Char) :
    Begins (text.toList ++ after) value := by
  obtain ⟨_, documents, _, _, reads, decoded⟩ := accepted.whole
  exact ⟨documents, [] ++ after, reads.extends (Or.inl rfl) after, decoded⟩

private theorem FirstSpan.objectAt {text : List Char} {span : Span} {value : Json} (first : FirstSpan text span value) :
    ObjectAt text span.start value := by
  obtain ⟨⟨⟨before, after, split, start, _⟩, inner, body, _⟩, accepted, _⟩ := first
  have begins := accepted.begins after
  rw [String.toList_ofList, body] at begins
  exact ⟨before, inner ++ '\x7d' :: after, by simp [split, body], start, by simpa using begins⟩

private theorem objectOfSpan_iff {text : List Char} {span : Span} {value : Json} (outermost : TopLevel text span) :
    Query.objectOfSpan? span = some value ↔ Accepted (String.ofList span.body) value := by
  obtain ⟨_, inner, body, _⟩ := outermost
  constructor
  · intro found
    unfold Query.objectOfSpan? Query.object? at found
    split at found
    next members accepted =>
      cases found
      refine ⟨?_, ?_, accepted⟩
      · rw [String.toList_ofList, body]
        rfl
      · rw [String.toList_ofList, body, ← List.cons_append, List.getLast?_concat]
    next => cases found
  · intro accepted
    obtain ⟨members, rfl⟩ := accepted.object
    simp only [Query.objectOfSpan?, accepted.accepted, Query.object?]

private theorem spans_first {text : List Char} {value : Json} :
    (Span.ofText text).findSome? Query.objectOfSpan? = some value ↔ ∃ span, FirstSpan text span value := by
  have sorted := ofText_sorted text
  constructor
  · intro found
    obtain ⟨earlier, span, later, split, object, passed⟩ := List.findSome?_eq_some_iff.mp found
    have outermost : TopLevel text span := mem_ofText_iff.mp (by simp [split])
    refine ⟨span, outermost, (objectOfSpan_iff outermost).mp object, ?_⟩
    intro other held level below accepted
    have listed := mem_ofText_iff.mpr level
    rw [split] at listed sorted
    rcases List.mem_append.mp listed with before | after
    · have nothing := passed other before
      rw [(objectOfSpan_iff level).mpr accepted] at nothing
      cases nothing
    · -- A span that comes later also starts later.
      rcases List.mem_cons.mp after with rfl | behind
      · exact Nat.lt_irrefl _ below
      · have follows := (List.pairwise_cons.mp (List.pairwise_append.mp sorted).2.1).1 other behind
        unfold Span.finish at follows
        omega
  · rintro ⟨span, outermost, accepted, first⟩
    obtain ⟨earlier, later, split⟩ := List.append_of_mem (mem_ofText_iff.mpr outermost)
    refine List.findSome?_eq_some_iff.mpr ⟨earlier, span, later, split, (objectOfSpan_iff outermost).mpr accepted, ?_⟩
    intro other before
    have level : TopLevel text other := mem_ofText_iff.mp (by simp [split, before])
    cases held : Query.objectOfSpan? other with
    | none => rfl
    | some object =>
      have whole := (objectOfSpan_iff level).mp held
      rw [split] at sorted
      have follows := (List.pairwise_append.mp sorted).2.2 other before span List.mem_cons_self
      obtain ⟨_, inner, body, _⟩ := level
      have size : 0 < Span.byteLength other.body := by
        rw [body]
        exact Nat.add_pos_left (Char.utf8Size_pos _) _
      unfold Span.finish at follows
      exact absurd whole (first other object (mem_ofText_iff.mp (by simp [split, before])) (by omega))

private theorem spans_none {text : List Char} :
    (Span.ofText text).findSome? Query.objectOfSpan? = none ↔
      ∀ span value, TopLevel text span → ¬ Accepted (String.ofList span.body) value := by
  rw [List.findSome?_eq_none_iff]
  constructor
  · intro nothing span value outermost accepted
    have found := (objectOfSpan_iff outermost).mpr accepted
    rw [nothing span (mem_ofText_iff.mpr outermost)] at found
    cases found
  · intro refused span listed
    have outermost := mem_ofText_iff.mp listed
    cases found : Query.objectOfSpan? span with
    | none => rfl
    | some value => exact absurd ((objectOfSpan_iff outermost).mp found) (refused span value outermost)

private theorem findObject_iff {text : String} {value : Json} : Query.findObject? text = some value ↔
    (∃ span, FirstSpan text.toList span value) ∨
      (∀ span other, TopLevel text.toList span → ¬ Accepted (String.ofList span.body) other) ∧
        ∃ offset, FirstAt text.toList offset value := by
  rw [← spans_first, ← spans_none, ← firstObject_iff, ← braceSuffixes_first]
  unfold Query.findObject?
  cases (Span.ofText text.toList).findSome? Query.objectOfSpan? <;> simp

private theorem findObject_none {text : String} :
    Query.findObject? text = none ↔ ∀ offset value, ¬ ObjectAt text.toList offset value := by
  constructor
  · intro absent offset value begins
    obtain ⟨_, object, first⟩ := exists_first begins
    have tried := braceSuffixes_first.mpr first.object
    unfold Query.findObject? at absent
    rw [tried] at absent
    split at absent <;> cases absent
  · intro objectless
    cases held : Query.findObject? text with
    | none => rfl
    | some value =>
      rcases findObject_iff.mp held with ⟨span, first⟩ | ⟨_, offset, first⟩
      · exact absurd first.objectAt (objectless _ _)
      · exact absurd first.found (objectless _ _)

private theorem ofText_noObject {text : String} :
    Query.ofText text = .error .noObject ↔ Query.findObject? text = none := by
  unfold Query.ofText
  cases Query.findObject? text with
  | none => simp
  | some value => cases outcome : Query.ofJson value <;> simp [outcome, Except.mapError]

/-- An object is found in a text just when one begins at some brace of it. It is that of
the first outermost span that is an object, and if no such span is, that of the first
brace at which an object begins. -/
theorem found_exactly (text : String) :
    (Query.findObject? text = none ↔ ∀ offset value, ¬ ObjectAt text.toList offset value) ∧
    (Query.ofText text = .error .noObject ↔ ∀ offset value, ¬ ObjectAt text.toList offset value) ∧
    ∀ value, Query.findObject? text = some value ↔
      (∃ members, value = .object members) ∧
      ((∃ span, FirstSpan text.toList span value ∧ ObjectAt text.toList span.start value) ∨
        (∀ span other, TopLevel text.toList span → ¬ Accepted (String.ofList span.body) other) ∧
          ∃ offset, FirstAt text.toList offset value) := by
  refine ⟨findObject_none, ofText_noObject.trans findObject_none, fun value => ?_⟩
  rw [findObject_iff]
  constructor
  · rintro (⟨span, first⟩ | ⟨refused, offset, first⟩)
    · exact ⟨first.accepted.object, Or.inl ⟨span, first, first.objectAt⟩⟩
    · obtain ⟨_, _, _, _, documents, _, _, decoded⟩ := first.found
      exact ⟨decoded_of_object decoded, Or.inr ⟨refused, offset, first⟩⟩
  · rintro ⟨_, ⟨span, first, _⟩ | later⟩
    · exact Or.inl ⟨span, first⟩
    · exact Or.inr later

end ClipRank.Proofs.ObjectExtraction
