import ClipRank.Service.MediaType
import ClipRank.Service.Message
import ClipRank.Component.Json
import ClipRank.VideoRecord.Json
import ClipRank.Weights.Json

/-!
What a request asks for, once its path, method and body are understood.
-/

namespace ClipRank

open Json (Decoder Shape)

/-- Weights and profile that stand in for those of the service. -/
structure Overrides where
  weights : Option (Weights Float)
  profile : Option Profile

namespace Overrides

def none : Overrides :=
  ⟨.none, .none⟩

end Overrides

inductive Call where
  | health
  | weights
  | score (records : List VideoRecord) (overrides : Overrides)
  | explain (record : VideoRecord) (overrides : Overrides)
  | query (records : List VideoRecord) (query : Json) (overrides : Overrides)
  | ask (records : List VideoRecord) (question : String) (overrides : Overrides)

/-- Why a request is not understood. -/
inductive Refusal where
  | noSuchPath
  | wrongMethod (allowed : String)
  | notJson
  | tooLarge
  | body (fault : Json.Fault)

namespace Refusal

def response : Refusal → Response
  | noSuchPath => .empty 404
  | wrongMethod allowed => (Response.empty 405).withHeader "allow" allowed
  | notJson => .text 415 "Expected request with \x60Content-Type: application/json\x60"
  | tooLarge => .text 413 "Failed to buffer the request body: length limit exceeded"
  | body .malformed => .text 400 "Failed to parse the request body as JSON"
  | body (.mismatch path cause) =>
    let place := if path.isEmpty then "" else Json.Fault.renderPath path ++ ": "
    .text 422 ("Failed to deserialize the JSON body into the target type: " ++ place ++ cause.message)

/-- The methods that a refusal names instead. -/
def allowed? : Refusal → Option String
  | wrongMethod allowed => some allowed
  | noSuchPath | notJson | tooLarge | body _ => none

end Refusal

namespace Call

/-- The values of the bodies of all paths while their fields are taken in. -/
structure Draft where
  records : List VideoRecord
  record : VideoRecord
  query : Json
  question : String
  overrides : Overrides

def Draft.start : Draft :=
  ⟨[], VideoRecord.shape.start, .null, "", .none⟩

def recordsField : Json.Field Draft :=
  Json.Field.make "records" .refused (Decoder.list VideoRecord.decoder) fun value held =>
    { held with records := value }

def recordField : Json.Field Draft :=
  Json.Field.make "record" .refused VideoRecord.decoder fun value held => { held with record := value }

def queryField : Json.Field Draft :=
  Json.Field.make "query" .refused Decoder.json fun value held => { held with query := value }

def questionField : Json.Field Draft :=
  Json.Field.make "question" .refused Decoder.string fun value held => { held with question := value }

def overrideFields : List (Json.Field Draft) := [
  Json.Field.make "weights" .default Weights.decoder.option fun value held =>
    { held with overrides := { held.overrides with weights := value } },
  Json.Field.make "profile" .default (Decoder.option Profile.decoder) fun value held =>
    { held with overrides := { held.overrides with profile := value } }]

def bodyDecoder (name : String) (fields : List (Json.Field Draft)) (call : Draft → Call) : Decoder Call :=
  (Shape.decoder ⟨name, .start, fields ++ overrideFields⟩).map call

def scoreBody : Decoder Call :=
  bodyDecoder "struct ScoreReq" [recordsField] fun draft => score draft.records draft.overrides

def explainBody : Decoder Call :=
  bodyDecoder "struct ExplainReq" [recordField] fun draft => explain draft.record draft.overrides

def queryBody : Decoder Call :=
  bodyDecoder "struct QueryReq" [recordsField, queryField] fun draft =>
    query draft.records draft.query draft.overrides

def askBody : Decoder Call :=
  bodyDecoder "struct AskReq" [recordsField, questionField] fun draft =>
    ask draft.records draft.question draft.overrides

/-- The longest body that is read, in bytes. -/
def bodyLimit : Nat := 2097152

def ofBody (decoder : Decoder Call) (request : Request) : Except Refusal Call :=
  let declared := (request.headers.get? "content-type").bind MediaType.parse?
  if !declared.any MediaType.isJson then .error .notJson
  else if bodyLimit < request.body.utf8ByteSize then .error .tooLarge
  else (Decoder.ofText decoder request.body).mapError .body

/-- A call that needs no body. Asking for the headers alone is allowed too. -/
def reading (call : Call) (request : Request) : Except Refusal Call :=
  if request.method = "GET" ∨ request.method = "HEAD" then .ok call else .error (.wrongMethod "GET,HEAD")

def posting (decoder : Decoder Call) (request : Request) : Except Refusal Call :=
  if request.method = "POST" then ofBody decoder request else .error (.wrongMethod "POST")

/-- Understands a request. -/
def ofRequest (request : Request) : Except Refusal Call :=
  match request.path with
  | "/health" => reading health request
  | "/weights" => reading weights request
  | "/score" => posting scoreBody request
  | "/explain" => posting explainBody request
  | "/query" => posting queryBody request
  | "/ask" => posting askBody request
  | _ => .error .noSuchPath

end Call

end ClipRank
