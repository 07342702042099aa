import ClipRank.Json.Decoder

/-!
Records as documents. A record is an object with its fields in any order and
further keys passed over, or an array of the fields in the order of declaration.
-/

namespace ClipRank.Json

/-- What a field that is not given comes to. -/
inductive Absence where
  /-- The record is refused. -/
  | refused
  /-- The field keeps its starting value. -/
  | default
  /-- The field keeps its starting value in an object, but an array has to give it. -/
  | defaultByKey
deriving DecidableEq

structure Field (α : Type) where
  name : String
  aliases : List String
  absence : Absence
  /-- Decodes the field into an update of the record. -/
  read : Decoder (α → α)

namespace Field

variable {α β : Type}

def make (name : String) (absence : Absence) (decoder : Decoder β) (set : β → α → α) : Field α :=
  ⟨name, [], absence, decoder.map set⟩

def named (field : Field α) (key : String) : Bool :=
  field.name = key || field.aliases.contains key

end Field

structure Shape (α : Type) where
  name : String
  start : α
  fields : List (Field α)

namespace Shape

variable {α : Type}

/-- Takes in one member of an object. The names of the fields met so far are kept,
so that a field given twice, under whatever names, is refused. -/
def readMember (shape : Shape α) (origin : Origin) (state : List String × α) :
    Option String × Document → Except Fault (List String × α)
  | (none, _) => .error .malformed
  | (some key, document) =>
    match shape.fields.find? (·.named key) with
    | none => if document.intact then .ok state else .error .malformed
    | some field =>
      if state.1.contains field.name then .error (.ofMismatch (.duplicate field.name))
      else do
        let update ← (field.read origin document).mapError (.within (.key key))
        return (field.name :: state.1, update state.2)

def readMembers (shape : Shape α) (origin : Origin) (members : List (Option String × Document))
    (closed : Bool) : Except Fault α := do
  let (seen, value) ← members.foldlM (readMember shape origin) ([], shape.start)
  if !closed then .error .malformed
  else
    match shape.fields.find? fun field => field.absence = .refused && !seen.contains field.name with
    | some field => .error (.ofMismatch (.missing field.name))
    | none => .ok value

/-- Takes in the fields from some position on. -/
def readItems (shape : Shape α) (origin : Origin) (closed : Bool) (position : Nat) (value : α) :
    List (Field α) → List Document → Except Fault α
  | [], rest =>
    if rest.isEmpty then (if closed then .ok value else .error .malformed)
    else if origin.isText then .error .malformed
    else .error (.ofMismatch (.length (position + rest.length) "fewer elements in array"))
  | field :: fields, [] =>
    if !closed then .error .malformed
    else if field.absence = .default then readItems shape origin closed (position + 1) value fields []
    else
      let wanted := shape.name ++ " with " ++ toString shape.fields.length ++
        if shape.fields.length = 1 then " element" else " elements"
      .error (.ofMismatch (.length position wanted))
  | field :: fields, document :: rest => do
    let update ← (field.read origin document).mapError (.within (.index position))
    readItems shape origin closed (position + 1) (update value) fields rest

def decoder (shape : Shape α) : Decoder α
  | origin, .object members closed => do
    readMembers shape (← origin.enter) members closed
  | origin, .array items closed => do
    readItems shape (← origin.enter) closed 0 shape.start shape.fields items
  | _, document => Decoder.wrongType shape.name document

end Shape

end ClipRank.Json
