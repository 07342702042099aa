import ClipRank.Service
import ClipRank.Proofs.Metering

/-! What the service does with a request, and with one after another. Its response is made
of the call, of a profile, of weights and of the translator, and it stays as it was or has
looked up its weights. What it counts depends on the call and the translator alone. -/

namespace ClipRank.Proofs.ServiceRuns
open Metering

section Calls

def brought : Call → Overrides
  | .health | .weights => .none
  | .score _ overrides | .explain _ overrides | .query _ _ overrides | .ask _ _ overrides => overrides

/-- What is read as a query from the value that a request gives for one. -/
def readQuery : Json → Except Rejection Query
  | .string text => Query.ofText text
  | value => (Query.ofJson value).mapError .grammar

/-- The response to a call that is carried out with these weights and this profile. -/
def reply (profile : Profile) (weights : Weights Float) (translator : Translator) (now : Timestamp) (call : Call) : Response :=
  let ranked (records : List VideoRecord) :=
    ScoredRecord.rank (ScoredRecord.ofRecords (Intake.ofBatch records).kept profile weights now)
  match call with
  | .health => .text 200 "ok"
  | .weights => .json 200 (Service.weightsReport profile weights)
  | .score records _ => .json 200 <| .object [("records", .array ((ranked records).map ScoredRecord.toJson)),
      ("dropped", .ofNat (Intake.ofBatch records).dropped)]
  | .explain record _ => .json 200 (Explanation.ofRecord (.ofRecord record profile weights now) weights).toJson
  | .query records query _ =>
    Service.ofResult (((readQuery query).map (Query.execute (ranked records))).mapError Service.ofRejection)
  | .ask records question _ => Service.ofResult ((answerTo (ranked records) translator question).mapError Service.ofAskFault)

/-- What a call counts. The scores of the records have no part in it. -/
def callAmounts (translator : Translator) : Call → Counter → Nat
  | .health | .weights => 0
  | .score records _ => batchAmounts records
  | .explain _ _ => Pi.single .recordsScored 1
  | .query records query _ => batchAmounts records + queryAmounts (readQuery query)
  | .ask records question _ => batchAmounts records + questionAmounts translator question

def replyOf (service : Service) (surroundings : Surroundings) (call : Call) : Response :=
  reply ((brought call).profile.getD service.profile) (service.weightsFor surroundings.file (brought call).weights).1
    service.translator surroundings.now call

/-- The service once its weights were looked up. -/
def looked (service : Service) (file : Option Snapshot) : Service :=
  { service with weights := service.weights.refresh file }

private theorem runGiven_yields (scored : List (ScoredRecord Float)) (query : Json) :
    Yields (Metered.runGiven scored query) ((readQuery query).map (Query.execute scored)) (queryAmounts (readQuery query)) := by
  have same : Metered.runGiven scored query = Metered.run scored (readQuery query) := by
    cases query <;> rfl
  rw [same]
  exact run_yields scored (readQuery query)

theorem perform_yields (service : Service) (surroundings : Surroundings) (call : Call) :
    ∃ after, (after = service ∨ after = looked service surroundings.file) ∧
      Yields (service.perform surroundings call) (replyOf service surroundings call, after)
        (callAmounts service.translator call) := by
  have settled (given : Option (Weights Float)) : (service.weightsFor surroundings.file given).2 = service ∨
      (service.weightsFor surroundings.file given).2 = looked service surroundings.file := by
    cases given with
    | none => exact Or.inr rfl
    | some weights => exact Or.inl rfl
  have kept (given : Option (Weights Float)) :
      (service.weightsFor surroundings.file given).2.profile = service.profile ∧
      (service.weightsFor surroundings.file given).2.translator = service.translator := by
    cases given <;> exact ⟨rfl, rfl⟩
  unfold replyOf
  rw [← (kept (brought call).weights).1, ← (kept (brought call).weights).2]
  cases call with
  | health => exact ⟨service, Or.inl rfl, Yields.pure _⟩
  | weights => exact ⟨_, Or.inr rfl, Yields.pure _⟩
  | score records overrides => exact ⟨_, settled overrides.weights, Yields.map (rank_yields ..) _⟩
  | explain record overrides => exact ⟨_, settled overrides.weights, Yields.map (score_yields ..) _⟩
  | query records query overrides =>
    refine ⟨_, settled overrides.weights, Yields.bind (rank_yields ..) ?_⟩
    exact Yields.map (runGiven_yields ..) _
  | ask records question overrides =>
    refine ⟨_, settled overrides.weights, Yields.bind (rank_yields ..) ?_⟩
    exact Yields.map (ask_yields ..) _

end Calls

section Requests
variable (request : Request)

/-- The call that a request is understood as, if it is understood. -/
def understood : Option Call :=
  (Call.ofRequest request).toOption

/-- What another site asks before it sends a request is no call. -/
theorem method_of_call {request : Request} {call : Call} (found : Call.ofRequest request = .ok call) :
    request.method ≠ "OPTIONS" := by
  intro asked
  unfold Call.ofRequest at found
  split at found <;> simp [Call.reading, Call.posting, asked] at found

/-- The response to a request: the one to its call, or a refusal. -/
def responseTo (service : Service) (surroundings : Surroundings) : Response :=
  match Call.ofRequest request with
  | .ok call =>
    let content := replyOf service surroundings call
    let content := if request.method = "HEAD" then content.withoutContent else content
    { content with headers := Service.sharing request ++ content.headers }
  | .error refusal =>
    if request.method = "OPTIONS" then Service.permission request
    else { refusal.response with headers := Service.sharing request ++ refusal.response.headers }

theorem respond_yields (service : Service) (surroundings : Surroundings) :
    ∃ after, (after = service ∨ after = looked service surroundings.file) ∧
      Yields (service.respond surroundings request) (responseTo request service surroundings, after)
        ((understood request).elim 0 (callAmounts service.translator)) := by
  unfold Service.respond Service.respondBy Service.answerBy responseTo understood
  cases found : Call.ofRequest request with
  | error refusal =>
    refine ⟨service, Or.inl rfl, ?_⟩
    split <;> exact Yields.pure _
  | ok call =>
    obtain ⟨after, moved, yields⟩ := perform_yields service surroundings call
    refine ⟨after, moved, ?_⟩
    rw [if_neg (method_of_call found)]
    exact Yields.map (Yields.map yields _) _

end Requests

section Run

/-- A request with what it finds. A translator need not reply as it did before. -/
structure Turn where
  surroundings : Surroundings
  request : Request
  translate : String → Except TranslatorFault String

def hearing (service : Service) (translate : String → Except TranslatorFault String) : Service :=
  { service with translator := { service.translator with translate := translate } }

def serve (service : Service) : List Turn → Metered Service
  | [] => return service
  | turn :: rest => do
    let (_, service) ← (hearing service turn.translate).respond turn.surroundings turn.request
    serve service rest

def runAmounts (provider : String) : List Turn → Counter → Nat
  | [] => 0
  | turn :: rest =>
    (understood turn.request).elim 0 (callAmounts ⟨provider, turn.translate⟩) + runAmounts provider rest

private theorem refresh_modified (hot : HotWeights) (snapshot : Snapshot) :
    (hot.refresh (some snapshot)).modified = some snapshot.modified := by
  by_cases seen : hot.modified = some snapshot.modified
  · simp [HotWeights.refresh, seen]
  · cases outcome : snapshot.weights <;> simp [HotWeights.refresh, seen, outcome]

/-- A second look at the same file sees nothing new. -/
theorem looked_looked (service : Service) (file : Option Snapshot) :
    looked (looked service file) file = looked service file := by
  have again : (service.weights.refresh file).refresh file = service.weights.refresh file := by
    cases file with
    | none => rfl
    | some snapshot => exact if_pos (refresh_modified service.weights snapshot)
  unfold looked
  rw [again]

/-- What a run counts. Once the weights are looked up, it does not show in the service, if
the file and the translator stayed as they are. -/
theorem serve_yields (service : Service) (turns : List Turn) :
    ∃ after, Yields (serve service turns) after (runAmounts service.translator.name turns) ∧
      ∀ file, (∀ turn ∈ turns, turn.surroundings.file = file ∧ turn.translate = service.translator.translate) →
        looked after file = looked service file := by
  induction turns generalizing service with
  | nil => exact ⟨service, Yields.pure service, fun _ _ => rfl⟩
  | cons turn rest ih =>
    obtain ⟨next, moved, yields⟩ := respond_yields turn.request (hearing service turn.translate) turn.surroundings
    obtain ⟨after, later, same⟩ := ih next
    have kept : next.translator = ⟨service.translator.name, turn.translate⟩ := by
      rcases moved with rfl | rfl <;> rfl
    refine ⟨after, ?_, ?_⟩
    -- What the rest counts depends on the name of the translator, which stays.
    · rw [kept] at later
      exact Yields.bind yields later
    · intro file fixed
      obtain ⟨⟨here, usual⟩, there⟩ := List.forall_mem_cons.mp fixed
      rw [usual] at moved kept
      rw [same file (by rw [kept]; exact there)]
      rcases moved with rfl | rfl
      · rfl
      · rw [here]
        exact looked_looked service file

end Run

end ClipRank.Proofs.ServiceRuns
