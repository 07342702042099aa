import ClipRank.Json.Printer
import ClipRank.Service.Target

/-!
Requests to the service and its responses.
-/

namespace ClipRank

/-- The headers of a message. Names are compared without regard to case. -/
abbrev Headers := List (String × String)

namespace Headers

/-- The first value of a header. -/
def get? (headers : Headers) (name : String) : Option String :=
  (headers.find? fun header => header.1.map Char.toLower = name).map (·.2)

/-- Whether a value may stand in a header: there are no controls in it but the tab. -/
def isValue (value : String) : Bool :=
  value.toList.all fun c => c = '\t' || 0x20 ≤ c.toNat && c.toNat ≠ 0x7F

end Headers

structure Request where
  method : String
  path : String
  headers : Headers
  body : String

namespace Request

/-- The request with some method, target and headers, if they are well formed. -/
def make? (method target : String) (headers : Headers) (body : String) : Option Request := do
  guard (Token.isToken method)
  guard (headers.all fun header => Token.isToken header.1 && Headers.isValue header.2)
  return ⟨method, ← Target.path? target, headers, body⟩

end Request

inductive Content where
  | empty
  | text (text : String)
  | json (value : Json)

namespace Content

/-- The type under which a content is sent. -/
def mediaType? : Content → Option String
  | empty => none
  | text _ => some "text/plain; charset=utf-8"
  | json _ => some "application/json"

end Content

structure Response where
  status : Nat
  headers : Headers
  content : Content

namespace Response

def make (status : Nat) (content : Content) : Response :=
  ⟨status, (content.mediaType?.map fun type => ("content-type", type)).toList, content⟩

def json (status : Nat) (value : Json) : Response :=
  make status (.json value)

def text (status : Nat) (text : String) : Response :=
  make status (.text text)

def empty (status : Nat) : Response :=
  make status .empty

/-- An error and what is known about it. -/
def problem (status : Nat) (error detail : String) : Response :=
  json status (.object [("error", .string error), ("detail", .string detail)])

def withHeader (response : Response) (name value : String) : Response :=
  { response with headers := response.headers ++ [(name, value)] }

/-- The same response with its headers only. -/
def withoutContent (response : Response) : Response :=
  { response with content := .empty }

end Response

end ClipRank
