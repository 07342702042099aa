import ClipRank.Explanation
import ClipRank.Metered
import ClipRank.Service.Call
import ClipRank.WeightsFile

/-!
The service: what it holds between requests, and its response to each. All that it
holds that a request can change is what it last saw of the weights file.
-/

namespace ClipRank

structure Service where
  profile : Profile
  weights : HotWeights
  translator : Translator

/-- What a request finds around it. -/
structure Surroundings where
  now : Timestamp
  /-- The weights file. -/
  file : Option Snapshot

namespace Service

/-- The weights for a call. The file is looked at only if the call gives none. -/
def weightsFor (service : Service) (file : Option Snapshot) :
    Option (Weights Float) → Weights Float × Service
  | some given => (given.sanitized, service)
  | none =>
    let hot := service.weights.refresh file
    (hot.current, { service with weights := hot })

/-- The weights in use and the share of each, in percent. -/
def weightsReport (profile : Profile) (weights : Weights Float) : Json :=
  let shares := profile.components.map fun component =>
    (component.name, Json.ofNat (weights.percent component profile.components).toNat)
  .object [("profile", .string profile.name), ("weights", weights.toJson),
    ("percentages", .object (shares.mergeSort fun a b => a.1 ≤ b.1))]

def ofRejection (rejection : Rejection) : Response :=
  .problem 400 "could not understand the question" rejection.message

def ofAskFault : AskFault → Response
  | .query rejection => ofRejection rejection
  | .question fault => .problem 400 "invalid question" fault.message
  | .translator fault => .problem 503 "translator unavailable" fault.message

def ofResult : Except Response QueryResult → Response
  | .ok result => .json 200 result.toJson
  | .error response => response

/-- A header of the response that repeats one of the request. -/
def echo (request : Request) (source target : String) : Headers :=
  ((request.headers.get? source).map (target, ·)).toList

/-- Pages of every other site may use the service, and in every way. -/
def sharing (request : Request) : Headers :=
  ("access-control-allow-credentials", "true") ::
    echo request "origin" "access-control-allow-origin"

/-- The methods that a path has, for a request with another one. -/
def methods (request : Request) : Headers :=
  match Call.ofRequest request with
  | .ok _ => []
  | .error refusal => (refusal.allowed?.map ("allow", ·)).toList

/-- What a site is told that asks before it sends a request. -/
def permission (request : Request) : Response :=
  { Response.empty 200 with
    headers := sharing request ++
      echo request "access-control-request-method" "access-control-allow-methods" ++
      echo request "access-control-request-headers" "access-control-allow-headers" ++
      methods request }

section Scoring
variable {m : Type → Type} [Monad m] [MonadLiftT Metered m] (scoring : Scoring m)

/-- Carries out a call, with records scored in some way. -/
def performBy (service : Service) (surroundings : Surroundings) : Call → m (Response × Service)
  | .health => return (.text 200 "ok", service)
  | .weights =>
    let (weights, service) := service.weightsFor surroundings.file none
    return (.json 200 (weightsReport service.profile weights), service)
  | .score records overrides => do
    let (weights, service) := service.weightsFor surroundings.file overrides.weights
    let profile := overrides.profile.getD service.profile
    let (scored, dropped) ← scoring.rank records profile weights surroundings.now
    let answer := Json.object [("records", .array (scored.map ScoredRecord.toJson)), ("dropped", .ofNat dropped)]
    return (.json 200 answer, service)
  | .explain record overrides => do
    let (weights, service) := service.weightsFor surroundings.file overrides.weights
    let profile := overrides.profile.getD service.profile
    let scored ← scoring.score record profile weights surroundings.now
    return (.json 200 (Explanation.ofRecord scored weights).toJson, service)
  | .query records query overrides => do
    let (weights, service) := service.weightsFor surroundings.file overrides.weights
    let profile := overrides.profile.getD service.profile
    let (scored, _) ← scoring.rank records profile weights surroundings.now
    let result ← Metered.runGiven scored query
    return (ofResult (result.mapError ofRejection), service)
  | .ask records question overrides => do
    let (weights, service) := service.weightsFor surroundings.file overrides.weights
    let profile := overrides.profile.getD service.profile
    let (scored, _) ← scoring.rank records profile weights surroundings.now
    let result ← Metered.ask service.translator question scored
    return (ofResult (result.mapError ofAskFault), service)

/-- The response before it is released to other sites. -/
def answerBy (service : Service) (surroundings : Surroundings) (request : Request) : m (Response × Service) := do
  match Call.ofRequest request with
  | .error refusal => return (refusal.response, service)
  | .ok call =>
    let (response, service) ← performBy scoring service surroundings call
    return (if request.method = "HEAD" then response.withoutContent else response, service)

/-- The response to a request, and the service after it, with records scored in some way. -/
def respondBy (service : Service) (surroundings : Surroundings) (request : Request) : m (Response × Service) := do
  if request.method = "OPTIONS" then return (permission request, service)
  else
    let (response, service) ← answerBy scoring service surroundings request
    return ({ response with headers := sharing request ++ response.headers }, service)

end Scoring

/-- Carries out a call where sums are not checked. -/
def perform (service : Service) (surroundings : Surroundings) (call : Call) : Metered (Response × Service) :=
  performBy .unchecked service surroundings call

def respond (service : Service) (surroundings : Surroundings) (request : Request) : Metered (Response × Service) :=
  respondBy .unchecked service surroundings request

/-- The response to a request, and the service after it, where sums are checked. -/
def respond? (service : Service) (surroundings : Surroundings) (request : Request) : Checked (Response × Service) :=
  respondBy .checked service surroundings request

end Service

end ClipRank
