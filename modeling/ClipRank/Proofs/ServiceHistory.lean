import ClipRank.Proofs.ServiceRuns

/-! The service does not show its past. All that a request can change are the weights it
keeps, and while the file stays as it is, a look at the file comes to the same weights
from every state in which earlier looks have left the service. -/

namespace ClipRank.Proofs.ServiceHistory
open Metering ServiceRuns

/-- Requests at times of their own, all of which find the file and the translator in one
state. -/
def finding (file : Option Snapshot) (translator : Translator) (history : List (Timestamp × Request)) : List Turn :=
  history.map fun asked => ⟨⟨asked.1, file⟩, asked.2, translator.translate⟩

/-- The response of a service that has counted something before. -/
def response (service : Service) (surroundings : Surroundings) (request : Request) (counted : Tally) : Response :=
  (StateT.run (service.respond surroundings request) counted).1.1

private theorem response_eq (service : Service) (surroundings : Surroundings) (request : Request) (counted : Tally) :
    response service surroundings request counted = responseTo request service surroundings := by
  obtain ⟨after, _, yields⟩ := respond_yields request service surroundings
  exact congrArg Prod.fst (yields.value counted)

/-- It makes no difference to a response whether the weights were looked up before. -/
private theorem responseTo_looked (service : Service) (surroundings : Surroundings) (request : Request) :
    responseTo request (looked service surroundings.file) surroundings = responseTo request service surroundings := by
  have weights (given : Option (Weights Float)) :
      ((looked service surroundings.file).weightsFor surroundings.file given).1 =
        (service.weightsFor surroundings.file given).1 := by
    cases given with
    | none => exact congrArg (fun settled => settled.weights.current) (looked_looked service surroundings.file)
    | some given => rfl
  unfold responseTo replyOf
  simp only [weights]
  rfl

/-- The call brings both that the service would choose for it, and asks no translator. -/
def isSettled : Call → Bool
  | .score _ overrides | .explain _ overrides | .query _ _ overrides =>
    overrides.weights.isSome && overrides.profile.isSome
  | .health | .weights | .ask _ _ _ => false

private theorem replyOf_settled {call : Call} (settled : isSettled call = true) (service other : Service)
    (now : Timestamp) (file state : Option Snapshot) :
    replyOf service ⟨now, file⟩ call = replyOf other ⟨now, state⟩ call := by
  have both (overrides : Overrides) (given : (overrides.weights.isSome && overrides.profile.isSome) = true) :
      ∃ weights profile, overrides = ⟨some weights, some profile⟩ := by
    obtain ⟨weights, profile⟩ := overrides
    obtain ⟨first, second⟩ := Bool.and_eq_true_iff.mp given
    obtain ⟨weights, rfl⟩ := Option.isSome_iff_exists.mp first
    obtain ⟨profile, rfl⟩ := Option.isSome_iff_exists.mp second
    exact ⟨weights, profile, rfl⟩
  cases call with
  | health => cases settled
  | weights => cases settled
  | score records overrides =>
    obtain ⟨weights, profile, rfl⟩ := both overrides settled
    rfl
  | explain record overrides =>
    obtain ⟨weights, profile, rfl⟩ := both overrides settled
    rfl
  | query records query overrides =>
    obtain ⟨weights, profile, rfl⟩ := both overrides settled
    rfl
  | ask records question overrides => cases settled

/-- After any requests a service responds as a fresh one does, as long as the file stays
as it is. A request that brings weights and a profile gets one response of all services. -/
theorem response_forgets_history (profile : Profile) (fallback : Weights Float) (translator : Translator)
    (file : Option Snapshot) :
    let fresh : Service := ⟨profile, .start fallback, translator⟩
    (∀ (history : List (Timestamp × Request)) (now : Timestamp) (request : Request) (before counted other : Tally),
      let after := (StateT.run (serve fresh (finding file translator history)) before).1
      response after ⟨now, file⟩ request counted = response fresh ⟨now, file⟩ request other) ∧
    ∀ request, (∀ call, understood request = some call → isSettled call = true) →
      ∀ (service other : Service) (now : Timestamp) (found state : Option Snapshot) (counted before : Tally),
        response service ⟨now, found⟩ request counted = response other ⟨now, state⟩ request before := by
  intro fresh
  constructor
  · intro history now request before counted other after
    have fixed : ∀ turn ∈ finding file translator history,
        turn.surroundings.file = file ∧ turn.translate = translator.translate := by
      intro turn present
      obtain ⟨past, _, rfl⟩ := List.mem_map.mp present
      exact ⟨rfl, rfl⟩
    obtain ⟨last, yields, same⟩ := serve_yields fresh (finding file translator history)
    have reached : looked after file = looked fresh file := by
      have ended : after = last := yields.value before
      rw [ended]
      exact same file fixed
    rw [response_eq, response_eq, ← responseTo_looked after ⟨now, file⟩, ← responseTo_looked fresh ⟨now, file⟩, reached]
  · intro request settled service other now found state counted before
    rw [response_eq, response_eq]
    unfold responseTo
    cases asked : Call.ofRequest request with
    | error refusal => rfl
    | ok call =>
      have known : understood request = some call := by
        unfold understood
        rw [asked]
        rfl
      simp only [replyOf_settled (settled call known) service other now found state]

def settledScore : Request :=
  ⟨"POST", "/score", [("content-type", "application/json")],
    "\x7b\"records\": [\x7b\"id\": \"a\", \"views\": 900, \"likes\": 40\x7d, \x7b\"id\": \"b\", \"views\": 7\x7d], " ++
      "\"weights\": \x7b\"reach\": 1\x7d, \"profile\": \"v2\"\x7d"⟩

theorem settled_score_alike :
    let now : Timestamp := ⟨19875, 0, 0⟩
    let plain : Service := ⟨.classic, .start default, .disabled⟩
    let other : Service := ⟨.balanced, .start ((default : Weights Float).set .reach 0.0), .sample⟩
    (understood settledScore).any isSettled = true ∧
      response plain ⟨now, none⟩ settledScore [] = response other ⟨now, some ⟨1, .ok "\x7b\x7d"⟩⟩ settledScore [] := by
  intro now plain other
  have settled : (understood settledScore).any isSettled = true := by decide +kernel
  have brings : ∀ call, understood settledScore = some call → isSettled call = true := by
    intro call known
    rw [known] at settled
    exact settled
  exact ⟨settled, (response_forgets_history .classic default .disabled none).2 settledScore brings plain other now ..⟩

end ClipRank.Proofs.ServiceHistory
