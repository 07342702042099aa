import ClipRank.WeightsFile
import ClipRank.Proofs.ScoreScale

/-! Runs of the weights in use while their file changes, vanishes, breaks and is
repaired. What a call serves is said of what the calls up to it have found: the
fallback, or the weights of a version that one of them could read. -/

namespace ClipRank.Proofs.WeightsReload
open Json DoubleValue WholeDoubles

/-- The file comes into another state, or the weights are called for. -/
inductive Event where
  | file (state : Option Snapshot)
  | call

/-- A call for the weights: the file as it was found, and what was served. -/
structure Answer where
  found : Option Snapshot
  served : Weights Float

def runFrom (hot : HotWeights) (file : Option Snapshot) : List Event → List Answer
  | [] => []
  | .file state :: rest => runFrom hot state rest
  | .call :: rest => ⟨file, (hot.refresh file).current⟩ :: runFrom (hot.refresh file) file rest

/-- The calls of a run that starts without a file. -/
def run (fallback : Weights Float) (events : List Event) : List Answer :=
  runFrom (.start fallback) none events

def Readable (file : Option Snapshot) : Prop :=
  ∃ snapshot text, file = some snapshot ∧ snapshot.content = .ok text

/-- The file can be read and has these weights in it, as they are written there. -/
def Holds (file : Option Snapshot) (weights : Weights Float) : Prop :=
  ∃ snapshot text, file = some snapshot ∧ snapshot.content = .ok text ∧
    Decoder.ofText Weights.decoder text = .ok weights

/-- What was served last. Before the first call that is the fallback. -/
def lastServed (fallback : Weights Float) (earlier : List Answer) : Weights Float :=
  (earlier.getLast?.map Answer.served).getD fallback.sanitized

/-- The modification time that was seen last, by a call that found the file. -/
def lastSeen (earlier : List Answer) : Option Int :=
  (earlier.filterMap Answer.found).getLast?.map Snapshot.modified

/-- No weight is negative, infinite or a NaN. -/
def Usable (weights : Weights Float) : Prop :=
  ∀ component, (weights.get component).isFinite = true ∧ Float.le 0.0 (weights.get component) = true

/-- What an answer owes to the file and to the calls before it. -/
structure Sound (fallback : Weights Float) (earlier : List Answer) (answer : Answer) : Prop where
  usable : Usable answer.served
  origin : answer.served = fallback.sanitized ∨
    ∃ past ∈ earlier ++ [answer], ∃ weights, Holds past.found weights ∧ answer.served = weights.sanitized
  rejected : (∀ weights, ¬ Holds answer.found weights) → answer.served = lastServed fallback earlier
  fresh : ∀ snapshot weights, answer.found = some snapshot → Holds answer.found weights →
    lastSeen earlier ≠ some snapshot.modified → answer.served = weights.sanitized
  settled : ∀ snapshot, answer.found = some snapshot → lastSeen earlier = some snapshot.modified →
    answer.served = lastServed fallback earlier

theorem sanitized_usable (weights : Weights Float) : Usable weights.sanitized := by
  intro component
  obtain ⟨weight, found, natural, _⟩ := ScoreScale.positivePart_usable (weights.get component)
  rw [Weights.get_sanitized, ← value_isSome, found]
  exact ⟨rfl, (le_iff value_zero found).mpr natural⟩

private theorem weights_of_holds {snapshot : Snapshot} {weights : Weights Float}
    (holds : Holds (some snapshot) weights) : snapshot.weights = .ok weights.sanitized := by
  obtain ⟨_, text, same, readable, parsed⟩ := holds
  cases same
  simp only [Snapshot.weights, readable, Weights.ofText, parsed]
  rfl

private theorem holds_of_weights {snapshot : Snapshot} {used : Weights Float} (ok : snapshot.weights = .ok used) :
    ∃ weights, Holds (some snapshot) weights ∧ used = weights.sanitized := by
  unfold Snapshot.weights at ok
  split at ok
  next => cases ok
  next text readable =>
    unfold Weights.ofText at ok
    cases parsed : Decoder.ofText Weights.decoder text with
    | error fault => rw [parsed] at ok; cases ok
    | ok weights =>
      rw [parsed] at ok
      cases ok
      exact ⟨weights, ⟨snapshot, text, rfl, readable, parsed⟩, rfl⟩

/-- All that a look at the file can do. -/
theorem refresh_cases (hot : HotWeights) (file : Option Snapshot) :
    (file = none ∧ hot.refresh file = hot) ∨
    (∃ snapshot, file = some snapshot ∧ hot.modified = some snapshot.modified ∧ hot.refresh file = hot) ∨
    (∃ snapshot weights, file = some snapshot ∧ hot.modified ≠ some snapshot.modified ∧ Holds file weights ∧
      hot.refresh file = ⟨weights.sanitized, some snapshot.modified⟩) ∨
    (∃ snapshot, file = some snapshot ∧ hot.modified ≠ some snapshot.modified ∧ (∀ weights, ¬ Holds file weights) ∧
      hot.refresh file = ⟨hot.current, some snapshot.modified⟩) := by
  cases file with
  | none => exact Or.inl ⟨rfl, rfl⟩
  | some snapshot =>
    right
    by_cases seen : hot.modified = some snapshot.modified
    · exact Or.inl ⟨snapshot, rfl, seen, if_pos seen⟩
    · right
      cases outcome : snapshot.weights with
      | ok used =>
        obtain ⟨weights, holds, rfl⟩ := holds_of_weights outcome
        refine Or.inl ⟨snapshot, weights, rfl, seen, holds, ?_⟩
        simp [HotWeights.refresh, seen, outcome]
      | error fault =>
        refine Or.inr ⟨snapshot, rfl, seen, ?_, ?_⟩
        · intro weights holds
          rw [weights_of_holds holds] at outcome
          cases outcome
        · simp [HotWeights.refresh, seen, outcome]

/-- How the state hangs together with the calls that led to it. -/
structure Follows (fallback : Weights Float) (earlier : List Answer) (hot : HotWeights) : Prop where
  usable : Usable hot.current
  origin : hot.current = fallback.sanitized ∨
    ∃ past ∈ earlier, ∃ weights, Holds past.found weights ∧ hot.current = weights.sanitized
  current : hot.current = lastServed fallback earlier
  modified : hot.modified = lastSeen earlier

theorem start_follows (fallback : Weights Float) : Follows fallback [] (.start fallback) :=
  ⟨sanitized_usable fallback, Or.inl rfl, rfl, rfl⟩

private theorem lastServed_last (fallback : Weights Float) (earlier : List Answer) (found : Option Snapshot)
    (served : Weights Float) : lastServed fallback (earlier ++ [⟨found, served⟩]) = served := by
  simp [lastServed]

private theorem lastSeen_absent (earlier : List Answer) (served : Weights Float) :
    lastSeen (earlier ++ [⟨none, served⟩]) = lastSeen earlier := by
  simp [lastSeen]

private theorem lastSeen_found (earlier : List Answer) (snapshot : Snapshot) (served : Weights Float) :
    lastSeen (earlier ++ [⟨some snapshot, served⟩]) = some snapshot.modified := by
  simp [lastSeen]

section Step
variable {fallback : Weights Float} {earlier : List Answer} {hot : HotWeights}

private theorem Follows.origin_after (follows : Follows fallback earlier hot) (answer : Answer) :
    hot.current = fallback.sanitized ∨
      ∃ past ∈ earlier ++ [answer], ∃ weights, Holds past.found weights ∧ hot.current = weights.sanitized := by
  rcases follows.origin with fallen | ⟨past, member, held⟩
  · exact Or.inl fallen
  · exact Or.inr ⟨past, List.mem_append_left _ member, held⟩

/-- One call answers soundly and leaves a state that follows. -/
theorem refresh_sound (follows : Follows fallback earlier hot) (file : Option Snapshot) :
    Sound fallback earlier ⟨file, (hot.refresh file).current⟩ ∧
      Follows fallback (earlier ++ [⟨file, (hot.refresh file).current⟩]) (hot.refresh file) := by
  have newest (weights : Weights Float) (held : Holds file weights) :
      ∃ past ∈ earlier ++ [Answer.mk file weights.sanitized], ∃ others,
        Holds past.found others ∧ weights.sanitized = others.sanitized :=
    ⟨_, List.mem_append_right _ (List.mem_singleton.mpr rfl), weights, held, rfl⟩
  rcases refresh_cases hot file with ⟨rfl, kept⟩ | ⟨snapshot, rfl, same, kept⟩ |
    ⟨snapshot, weights, rfl, other, held, taken⟩ | ⟨snapshot, rfl, other, broken, left⟩
  · rw [kept]
    refine ⟨⟨follows.usable, follows.origin_after _, fun _ => follows.current, ?_, ?_⟩,
      follows.usable, follows.origin_after _, (lastServed_last ..).symm, ?_⟩
    · intro snapshot weights absent
      cases absent
    · intro snapshot absent
      cases absent
    · exact follows.modified.trans (lastSeen_absent ..).symm
  · rw [kept]
    refine ⟨⟨follows.usable, follows.origin_after _, fun _ => follows.current, ?_, fun _ _ _ => follows.current⟩,
      follows.usable, follows.origin_after _, (lastServed_last ..).symm, same.trans (lastSeen_found ..).symm⟩
    intro found weights present _ unseen
    cases present
    exact absurd (follows.modified.symm.trans same) unseen
  · rw [taken]
    refine ⟨⟨sanitized_usable weights, Or.inr (newest weights held), ?_, ?_, ?_⟩,
      sanitized_usable weights, Or.inr (newest weights held), (lastServed_last ..).symm, (lastSeen_found ..).symm⟩
    · intro nothing
      exact absurd held (nothing weights)
    · intro found others _ present _
      have agree := (weights_of_holds held).symm.trans (weights_of_holds present)
      exact Except.ok.inj agree
    · intro found present seen
      cases present
      exact absurd (follows.modified.trans seen) other
  · rw [left]
    refine ⟨⟨follows.usable, follows.origin_after _, fun _ => follows.current, ?_, fun _ _ _ => follows.current⟩,
      follows.usable, follows.origin_after _, (lastServed_last ..).symm, (lastSeen_found ..).symm⟩
    intro found weights _ present
    exact absurd present (broken weights)

end Step

/-- What one call keeps a run keeps, and what one call promises of its answer holds of
all answers of the run. -/
theorem runFrom_promise {kept : List Answer → HotWeights → Prop} {promise : List Answer → Answer → Prop}
    (step : ∀ earlier hot file, kept earlier hot →
      promise earlier ⟨file, (hot.refresh file).current⟩ ∧
        kept (earlier ++ [⟨file, (hot.refresh file).current⟩]) (hot.refresh file))
    (events : List Event) {earlier : List Answer} {hot : HotWeights} {file : Option Snapshot}
    (holds : kept earlier hot) {before after : List Answer} {answer : Answer}
    (split : runFrom hot file events = before ++ answer :: after) : promise (earlier ++ before) answer := by
  induction events generalizing earlier hot file before with
  | nil => exact absurd split (by simp [runFrom])
  | cons event rest ih =>
    cases event with
    -- Nothing that is kept speaks of the file, so a change of it keeps all.
    | file state => exact ih holds split
    | call =>
      obtain ⟨answered, next⟩ := step earlier hot file holds
      cases before with
      | nil =>
        obtain ⟨rfl, _⟩ := List.cons.inj split
        simpa using answered
      | cons first before =>
        obtain ⟨rfl, later⟩ := List.cons.inj split
        simpa using ih next later

private theorem split_at {calls : List Answer} (position : Fin calls.length) :
    calls = calls.take position ++ calls[position] :: calls.drop (position + 1) := by
  simp

/-- Every call of a run serves usable weights, and they are the fallback or those of a
version that a call up to it could read. A new version with weights in it is served at once.
A version without any changes nothing, and neither does one that was seen before. -/
theorem run_sound (fallback : Weights Float) (events : List Event)
    (position : Fin (run fallback events).length) :
    Sound fallback ((run fallback events).take position) (run fallback events)[position] := by
  have step (earlier : List Answer) (hot : HotWeights) (file : Option Snapshot) (follows : Follows fallback earlier hot) :=
    refresh_sound follows file
  simpa using runFrom_promise step events (start_follows fallback) (split_at position)

/-- The call that first saw a modification time: the one seen before it was another,
and every later call that found the file found this one. -/
structure FirstSight (past : List Answer) (first : Answer) (later : List Answer) (modified : Int) : Prop where
  found : ∃ snapshot, first.found = some snapshot ∧ snapshot.modified = modified
  new : lastSeen past ≠ some modified
  since : ∀ answer ∈ later, ∀ snapshot, answer.found = some snapshot → snapshot.modified = modified

/-- The weights are those that the first call to see the modification time served. -/
def Sighted (fallback : Weights Float) (calls : List Answer) (modified : Int) (served : Weights Float) : Prop :=
  ∃ past first later, calls = past ++ first :: later ∧ FirstSight past first later modified ∧
    Sound fallback past first ∧ first.served = served

/-- An answer serves what the call served that first saw the modification time it found. -/
def Dated (fallback : Weights Float) (earlier : List Answer) (answer : Answer) : Prop :=
  ∀ snapshot, answer.found = some snapshot → Sighted fallback (earlier ++ [answer]) snapshot.modified answer.served

private theorem Sighted.extend {fallback served : Weights Float} {calls : List Answer} {modified : Int}
    (sighted : Sighted fallback calls modified served) {answer : Answer}
    (same : ∀ snapshot, answer.found = some snapshot → snapshot.modified = modified) :
    Sighted fallback (calls ++ [answer]) modified served := by
  obtain ⟨past, first, later, rfl, sight, sound, agree⟩ := sighted
  refine ⟨past, first, later ++ [answer], by simp, ⟨sight.found, sight.new, ?_⟩, sound, agree⟩
  intro other member
  rcases List.mem_append.mp member with before | last
  · exact sight.since other before
  · obtain rfl := List.mem_singleton.mp last
    exact same

/-- The state together with the call that first saw the modification time it keeps. -/
structure Traced (fallback : Weights Float) (earlier : List Answer) (hot : HotWeights) : Prop where
  follows : Follows fallback earlier hot
  sighted : ∀ modified, hot.modified = some modified → Sighted fallback earlier modified hot.current

theorem start_traced (fallback : Weights Float) : Traced fallback [] (.start fallback) :=
  ⟨start_follows fallback, fun _ nothing => by cases nothing⟩

theorem refresh_traced {fallback : Weights Float} {earlier : List Answer} {hot : HotWeights}
    (traced : Traced fallback earlier hot) (file : Option Snapshot) :
    Dated fallback earlier ⟨file, (hot.refresh file).current⟩ ∧
      Traced fallback (earlier ++ [⟨file, (hot.refresh file).current⟩]) (hot.refresh file) := by
  obtain ⟨sound, follows⟩ := refresh_sound traced.follows file
  let answer : Answer := ⟨file, (hot.refresh file).current⟩
  have result (sighted : ∀ modified, (hot.refresh file).modified = some modified →
        Sighted fallback (earlier ++ [answer]) modified answer.served)
      (seen : ∀ snapshot, file = some snapshot → (hot.refresh file).modified = some snapshot.modified) :=
    And.intro (fun snapshot present => sighted snapshot.modified (seen snapshot present)) (Traced.mk follows sighted)
  -- A modification time that was not seen last is seen first by this call.
  have first {snapshot : Snapshot} (present : file = some snapshot) (other : hot.modified ≠ some snapshot.modified) :
      Sighted fallback (earlier ++ [answer]) snapshot.modified answer.served := by
    rw [traced.follows.modified] at other
    exact ⟨earlier, answer, [], rfl, ⟨⟨snapshot, present, rfl⟩, other, fun _ nothing => by cases nothing⟩, sound, rfl⟩
  have looked {snapshot : Snapshot} (present : file = some snapshot) (other : hot.modified ≠ some snapshot.modified)
      (changed : (hot.refresh file).modified = some snapshot.modified) := by
    refine result (fun modified seen => ?_) (fun others same => ?_)
    · obtain rfl := Option.some.inj (changed.symm.trans seen)
      exact first present other
    · obtain rfl := Option.some.inj (present.symm.trans same)
      exact changed
  rcases refresh_cases hot file with ⟨absent, kept⟩ | ⟨snapshot, present, same, kept⟩ |
    ⟨snapshot, weights, present, other, _, taken⟩ | ⟨snapshot, present, other, _, left⟩
  · refine result (fun modified seen => ?_) (fun others same => absurd (absent.symm.trans same) (by simp))
    have unchanged : answer.served = hot.current := congrArg HotWeights.current kept
    rw [kept] at seen
    rw [unchanged]
    exact (traced.sighted modified seen).extend fun others same => absurd (absent.symm.trans same) (by simp)
  · refine result (fun modified seen => ?_) (fun others again => ?_)
    · have unchanged : answer.served = hot.current := congrArg HotWeights.current kept
      rw [kept] at seen
      rw [unchanged]
      apply (traced.sighted modified seen).extend
      intro others again
      obtain rfl := Option.some.inj (present.symm.trans again)
      exact Option.some.inj (same.symm.trans seen)
    · obtain rfl := Option.some.inj (present.symm.trans again)
      rw [kept]
      exact same
  · exact looked present other (congrArg HotWeights.modified taken)
  · exact looked present other (congrArg HotWeights.modified left)

/-- Two versions of the file with one modification time have the same text, as far as
they can be read. -/
def Versioned (events : List Event) : Prop :=
  ∀ first second : Snapshot, .file (some first) ∈ events → .file (some second) ∈ events →
    first.modified = second.modified → ∀ text other, first.content = .ok text → second.content = .ok other →
    text = other

private theorem found_occurs (events : List Event) {hot : HotWeights} {file : Option Snapshot} {answer : Answer}
    (member : answer ∈ runFrom hot file events) : answer.found = file ∨ .file answer.found ∈ events := by
  induction events generalizing hot file with
  | nil => cases member
  | cons event rest ih =>
    cases event with
    | file state =>
      rcases ih member with same | occurs
      · exact Or.inr (same ▸ List.mem_cons_self)
      · exact Or.inr (List.mem_cons_of_mem _ occurs)
    | call =>
      rcases List.mem_cons.mp member with rfl | later
      · exact Or.inl rfl
      · rcases ih later with same | occurs
        · exact Or.inl same
        · exact Or.inr (List.mem_cons_of_mem _ occurs)

private theorem snapshot_occurs {fallback : Weights Float} {events : List Event} {answer : Answer}
    {snapshot : Snapshot} (member : answer ∈ run fallback events) (found : answer.found = some snapshot) :
    .file (some snapshot) ∈ events := by
  rcases found_occurs events member with absent | occurs
  · rw [found] at absent
    cases absent
  · rwa [found] at occurs

/-- A file that can be read and has weights in it is served as it is, if the call that
first saw its modification time could read it. If that call could not, what was served
before it is served still. -/
theorem served_since_first_sight (fallback : Weights Float) (events : List Event) (versioned : Versioned events)
    (position : Fin (run fallback events).length) (snapshot : Snapshot) (weights : Weights Float)
    (found : (run fallback events)[position].found = some snapshot)
    (held : Holds (run fallback events)[position].found weights) :
    ∃ past first later, (run fallback events).take (position + 1) = past ++ first :: later ∧
      FirstSight past first later snapshot.modified ∧
      (Readable first.found → (run fallback events)[position].served = weights.sanitized) ∧
      (¬ Readable first.found → (run fallback events)[position].served = lastServed fallback past) := by
  have step (earlier : List Answer) (hot : HotWeights) (file : Option Snapshot) (traced : Traced fallback earlier hot) :=
    refresh_traced traced file
  have dated := runFrom_promise step events (start_traced fallback) (split_at position)
  obtain ⟨past, first, later, split, sight, sound, agree⟩ := dated snapshot found
  have split : (run fallback events).take (position + 1) = past ++ first :: later := by
    rw [← split]
    simp
  refine ⟨past, first, later, split, sight, ?_, ?_⟩
  · intro ⟨earliest, text, present, readable⟩
    obtain ⟨_, other, same, content, parsed⟩ := held
    obtain rfl := Option.some.inj (found.symm.trans same)
    obtain ⟨_, again, modified⟩ := sight.found
    obtain rfl := Option.some.inj (present.symm.trans again)
    have firstMember : first ∈ run fallback events :=
      List.mem_of_mem_take (split ▸ List.mem_append_right _ List.mem_cons_self)
    obtain rfl := versioned _ _ (snapshot_occurs firstMember present)
      (snapshot_occurs (List.getElem_mem position.isLt) found) modified text other readable content
    rw [← agree]
    refine sound.fresh earliest weights present ⟨earliest, text, present, readable, parsed⟩ ?_
    rw [modified]
    exact sight.new
  · intro unreadable
    rw [← agree]
    apply sound.rejected
    intro others ⟨earliest, text, present, readable, _⟩
    exact unreadable ⟨earliest, text, present, readable⟩

/-- A version of the file in which only the weight of reach is not the default. -/
def tenReachVersion : Snapshot :=
  ⟨1, .ok "\x7b\"reach\": 10\x7d"⟩

def tenReach : Weights Float :=
  { (default : Weights Float) with reach := 10.0 }

private theorem tenReach_held : Holds (some tenReachVersion) tenReach := by
  refine ⟨_, _, rfl, rfl, ?_⟩
  simp [Decoder.ofText, Document.read, Document.readStart, readValue, skipSpace, isSpace, readMembers, readString?,
    readPieces?, joinPieces?, readNumeral?, readNumeral?.readFraction?, readNumeral?.readPower?, Numeral.value?,
    Numeral.absorb]
  rfl

/-- The one version of a file that at times may not be read. -/
private theorem versioned_of_one {events : List Event} {text : String}
    (one : ∀ snapshot, .file (some snapshot) ∈ events → ∀ other, snapshot.content = .ok other → other = text) :
    Versioned events := by
  intro first second present occurs _ read other readable others
  rw [one first present read readable, one second occurs other others]

/-- The permission to read the file is taken away and given back. -/
def permissionLost : List Event :=
  [.file (some tenReachVersion), .call, .file (some ⟨1, .error .denied⟩), .call, .file (some tenReachVersion), .call]

theorem permission_lost_served :
    Versioned permissionLost ∧
    (run default permissionLost)[2].found = some tenReachVersion ∧
    Holds (run default permissionLost)[2].found tenReach ∧
    ∃ past first later, (run default permissionLost).take 3 = past ++ first :: later ∧
      FirstSight past first later 1 ∧
      (Readable first.found → (run default permissionLost)[2].served = tenReach.sanitized) ∧
      (¬ Readable first.found → (run default permissionLost)[2].served = lastServed default past) := by
  have versioned : Versioned permissionLost := by
    apply versioned_of_one
    intro snapshot present other readable
    simp only [permissionLost, List.mem_cons, Event.file.injEq, Option.some_inj, List.not_mem_nil, reduceCtorEq,
      false_or, or_false] at present
    rcases present with rfl | rfl | rfl
    · exact (Except.ok.inj readable).symm
    · cases readable
    · exact (Except.ok.inj readable).symm
  exact ⟨versioned, rfl, tenReach_held,
    served_since_first_sight default permissionLost versioned ⟨2, by decide⟩ tenReachVersion tenReach rfl tenReach_held⟩

def permissionGiven : List Event :=
  [.file (some ⟨1, .error .denied⟩), .call, .file (some tenReachVersion), .call]

/-- A valid file is not always served: here it could not be read when its modification
time was first seen, and it is not looked into again when it can be. -/
theorem permission_given_not_served :
    Versioned permissionGiven ∧
    (run default permissionGiven)[1].found = some tenReachVersion ∧
    Holds (run default permissionGiven)[1].found tenReach ∧
    (run default permissionGiven)[1].served = (default : Weights Float).sanitized ∧
    (run default permissionGiven)[1].served ≠ tenReach.sanitized ∧
    ¬ ∀ fallback events, Versioned events → ∀ answer ∈ run fallback events, ∀ weights,
      Holds answer.found weights → answer.served = weights.sanitized := by
  have versioned : Versioned permissionGiven := by
    apply versioned_of_one
    intro snapshot present other readable
    simp only [permissionGiven, List.mem_cons, Event.file.injEq, Option.some_inj, List.not_mem_nil, reduceCtorEq,
      false_or, or_false] at present
    rcases present with rfl | rfl
    · cases readable
    · exact (Except.ok.inj readable).symm
  have differ : (default : Weights Float).sanitized ≠ tenReach.sanitized := by decide
  refine ⟨versioned, rfl, tenReach_held, rfl, differ, fun served => ?_⟩
  exact differ (served default permissionGiven versioned _ (List.getElem_mem (n := 1) (by decide)) tenReach tenReach_held)

end ClipRank.Proofs.WeightsReload
