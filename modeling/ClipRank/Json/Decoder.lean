import ClipRank.Json.Document
import ClipRank.Json.Fault

/-!
Reading typed values from documents. A decoder looks at parts of a document in
the order in which they stand, so the fault it reports is the first one met. A
part that no decoder looks at only has to be grammatical.
-/

namespace ClipRank.Json

/-- Where a document comes from. Text bounds the containers that may be opened;
the count includes the one that fails. -/
inductive Origin where
  | text (containers : Nat)
  | value

namespace Origin

/-- Opens one container. -/
def enter : Origin → Except Fault Origin
  | text 0 | text 1 => .error .malformed
  | text (containers + 1) => .ok (text containers)
  | value => .ok value

def isText : Origin → Bool
  | text _ => true
  | value => false

end Origin

def Decoder (α : Type) : Type :=
  Origin → Document → Except Fault α

namespace Decoder

variable {α : Type}

def map {β : Type} (f : α → β) (decoder : Decoder α) : Decoder β :=
  fun origin document => (decoder origin document).map f

/-- Goes on with a check of the decoded value. -/
def bind {β : Type} (decoder : Decoder α) (check : α → Except Mismatch β) : Decoder β :=
  fun origin document => do
    match check (← decoder origin document) with
    | .ok value => .ok value
    | .error cause => .error (.ofMismatch cause)

/-- Reads a whole text. -/
def ofText (decoder : Decoder α) (text : String) : Except Fault α :=
  let (document, complete) := Document.read text
  match decoder (.text 128) document with
  | .error fault => .error fault
  | .ok value => if complete then .ok value else .error .malformed

/-- Reads a value that is already at hand. -/
def ofValue (decoder : Decoder α) (value : Json) : Except Fault α :=
  decoder .value (Document.ofJson value)

/-- What a value of the wrong kind is reported as. A number or a string has to have a
value first; a container is not looked into. -/
def found : Document → Except Fault Found
  | .null => .ok .null
  | .boolean value => .ok (.boolean value)
  | .number (some value) => .ok (.number value)
  | .string (some value) => .ok (.string value)
  | .array _ _ => .ok .sequence
  | .object _ _ => .ok .map
  | .number none | .string none | .broken => .error .malformed

def wrongType (expected : String) (document : Document) : Except Fault α := do
  .error (.ofMismatch (.type (← found document) expected))

def string : Decoder String
  | _, .string (some value) => .ok value
  | _, document => wrongType "a string" document

def boolean : Decoder Bool
  | _, .boolean value => .ok value
  | _, document => wrongType "a boolean" document

/-- Any number, as the nearest double. -/
def float : Decoder Float
  | _, .number (some value) => .ok value.toFloat
  | _, document => wrongType "f64" document

/-- A whole number written without point and exponent. -/
def word (expected : String) : Decoder UInt64
  | _, .number (some (.unsigned value)) => .ok value
  | _, .number (some (.negative magnitude)) =>
    .error (.ofMismatch (.value (.number (.negative magnitude)) expected))
  | _, document => wrongType expected document

def option (decoder : Decoder α) : Decoder (Option α)
  | _, .null => .ok none
  | origin, document => (decoder origin document).map some

def items (decoder : Decoder α) (origin : Origin) (position : Nat) :
    List Document → Except Fault (List α)
  | [] => .ok []
  | item :: rest => do
    let value ← (decoder origin item).mapError (.within (.index position))
    return value :: (← items decoder origin (position + 1) rest)

def list (decoder : Decoder α) : Decoder (List α)
  | origin, .array documents closed => do
    let values ← items decoder (← origin.enter) 0 documents
    if closed then .ok values else .error .malformed
  | _, document => wrongType "a sequence" document

mutual

/-- Any value. A repeated key keeps its first place and takes its last value. -/
def json (origin : Origin) : Document → Except Fault Json
  | .null => .ok .null
  | .boolean value => .ok (.boolean value)
  | .number (some value) => .ok (.number value)
  | .string (some value) => .ok (.string value)
  | .array documents closed => do
    let values ← jsonItems (← origin.enter) documents
    if closed then .ok (.array values) else .error .malformed
  | .object documents closed => do
    let members ← jsonMembers (← origin.enter) documents
    if closed then .ok (.object (Members.ofList members)) else .error .malformed
  | .number none | .string none | .broken => .error .malformed

def jsonItems (origin : Origin) : List Document → Except Fault (List Json)
  | [] => .ok []
  | item :: rest => do
    let value ← json origin item
    return value :: (← jsonItems origin rest)

def jsonMembers (origin : Origin) : List (Option String × Document) → Except Fault Members
  | [] => .ok []
  | (none, _) :: _ => .error .malformed
  | (some key, document) :: rest => do
    let value ← json origin document
    return (key, value) :: (← jsonMembers origin rest)

end

/-- An object with members of any kind. -/
def members : Decoder Members
  | origin, .object documents closed => do
    let members ← jsonMembers (← origin.enter) documents
    if closed then .ok (Members.ofList members) else .error .malformed
  | _, document => wrongType "a map" document

/-- One of some names. A name may also stand as the only key of an object, over
null. -/
def variant (names : List (String × α)) : Decoder α :=
  let choose (name : String) : Except Fault α :=
    match names.find? (·.1 = name) with
    | some (_, value) => .ok value
    | none => .error (.ofMismatch (.variant name (names.map (·.1))))
  fun origin document =>
    match document with
    | .string (some name) => choose name
    | .object documents closed => do
      let _ ← origin.enter
      match documents with
      | [] => single origin
      | (none, _) :: _ => .error .malformed
      | (some name, document) :: rest =>
        if !origin.isText ∧ !rest.isEmpty then single origin
        else
          let value ← choose name
          match document with
          | .null => if rest.isEmpty ∧ closed then .ok value else .error .malformed
          | document => (wrongType "unit" document).mapError (.within (.key name))
    | .string none | .broken => .error .malformed
    | document =>
      if origin.isText then .error .malformed else wrongType "string or map" document
where
  single (origin : Origin) : Except Fault α :=
    if origin.isText then .error .malformed
    else .error (.ofMismatch (.value .map "map with a single key"))

end Decoder

end ClipRank.Json
