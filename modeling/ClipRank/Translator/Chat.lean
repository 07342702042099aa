import ClipRank.Config.Translator
import ClipRank.Translator
import ClipRank.Translator.Prompt
import ClipRank.WebAddress

/-!
A translator that asks a language model over the web. What is sent and how a reply
is read are fixed here; the delivery itself is a parameter.
-/

namespace ClipRank

open Json (Decoder Shape Field)

/-- One request to the model. -/
structure ChatRequest where
  url : String
  headers : List (String × String)
  body : Json

/-- What became of a request. -/
inductive Delivery where
  | unreachable
  | answered (status : Nat) (body : String)

namespace ChatRequest

/-- How the service names itself to others. -/
def userAgent : String := "video-score-engine/0.1.0"

/-- The longest reply that is asked for, in the model's own measure. -/
def replyLimit : Nat := 500

def message (role content : String) : Json :=
  .object [("role", .string role), ("content", .string content)]

def question (model text : String) : Json :=
  .object [
    ("model", .string model),
    ("messages", .array [message "system" Prompt.system, message "user" text]),
    ("temperature", .ofFloat 0.1),
    ("max_tokens", .ofNat replyLimit)]

/-- Whether a text can travel in a header. -/
def fitsHeader (text : String) : Bool :=
  text.toList.all fun c => c = '\t' || (32 ≤ c.toNat && c.toNat ≠ 127)

/-- The request for a question, if the settings allow one. -/
def make? (config : TranslatorConfig) (text : String) : Option ChatRequest := do
  let url ← WebAddress.normalize? (TranslatorConfig.withoutSlashes config.baseUrl ++ "/chat/completions")
  if fitsHeader config.apiKey then
    return {
      url
      headers := [("authorization", "Bearer " ++ config.apiKey), ("content-type", "application/json"),
        ("user-agent", userAgent)]
      body := question config.model text }
  else none

end ChatRequest

namespace ChatReply

/-- The content of a choice. -/
def contentShape : Shape (Option String) where
  name := "message"
  start := none
  fields := [Field.make "content" .default Decoder.string.option fun value _ => value]

def choiceShape : Shape (Option String) where
  name := "choice"
  start := none
  fields := [Field.make "message" .refused contentShape.decoder fun value _ => value]

/-- The contents of all choices. -/
def shape : Shape (List (Option String)) where
  name := "reply"
  start := []
  fields := [Field.make "choices" .refused (Decoder.list choiceShape.decoder) fun value _ => value]

/-- The words that come with a status. -/
def reason (status : Nat) : String :=
  match [
    (100, "Continue"), (101, "Switching Protocols"), (102, "Processing"), (300, "Multiple Choices"),
    (301, "Moved Permanently"), (302, "Found"), (303, "See Other"), (304, "Not Modified"),
    (305, "Use Proxy"), (307, "Temporary Redirect"), (308, "Permanent Redirect"), (400, "Bad Request"),
    (401, "Unauthorized"), (402, "Payment Required"), (403, "Forbidden"), (404, "Not Found"),
    (405, "Method Not Allowed"), (406, "Not Acceptable"), (407, "Proxy Authentication Required"),
    (408, "Request Timeout"), (409, "Conflict"), (410, "Gone"), (411, "Length Required"),
    (412, "Precondition Failed"), (413, "Payload Too Large"), (414, "URI Too Long"),
    (415, "Unsupported Media Type"), (416, "Range Not Satisfiable"), (417, "Expectation Failed"),
    (418, "I'm a teapot"), (421, "Misdirected Request"), (422, "Unprocessable Entity"), (423, "Locked"),
    (424, "Failed Dependency"), (425, "Too Early"), (426, "Upgrade Required"), (428, "Precondition Required"),
    (429, "Too Many Requests"), (431, "Request Header Fields Too Large"),
    (451, "Unavailable For Legal Reasons"), (500, "Internal Server Error"), (501, "Not Implemented"),
    (502, "Bad Gateway"), (503, "Service Unavailable"), (504, "Gateway Timeout"),
    (505, "HTTP Version Not Supported"), (506, "Variant Also Negotiates"), (507, "Insufficient Storage"),
    (508, "Loop Detected"), (510, "Not Extended"), (511, "Network Authentication Required")].lookup status with
  | some words => words
  | none => "<unknown status code>"

/-- The first choice of a reply, without the blanks around it. -/
def read (url : String) : Delivery → Except TranslatorFault String
  | .unreachable => .error (.unavailable ("error sending request for url (" ++ url ++ ")"))
  | .answered status body =>
    if 200 ≤ status ∧ status < 300 then
      match Decoder.ofText shape.decoder body with
      | .error _ => .error (.unavailable "error decoding response body")
      | .ok choices =>
        let content := Text.trim ((choices.head?.join).getD "")
        if content = "" then .error .empty else .ok content
    else .error (.unavailable ("HTTP " ++ toString status ++ " " ++ reason status))

end ChatReply

namespace Translator

/-- Asks the model that the settings name. -/
def chat (config : TranslatorConfig) (deliver : ChatRequest → Delivery) : Translator where
  name := "openai"
  translate text :=
    if config.apiKey = "" then .error (.unavailable "missing API key")
    else
      match ChatRequest.make? config text with
      | none => .error (.unavailable "builder error")
      | some request => ChatReply.read request.url (deliver request)

/-- The translator that settings and environment ask for. -/
def ofConfig (config : TranslatorConfig) (environment : Environment) (deliver : ChatRequest → Delivery) :
    Translator :=
  if environment "TRANSLATOR_TEST_MODE" = some "mock" then sample
  else if !config.enabled then disabled
  else if config.provider = "mock" then sample
  else if config.provider = "openai" then chat config deliver
  else disabled

end Translator

end ClipRank
