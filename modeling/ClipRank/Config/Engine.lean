import ClipRank.Failure
import ClipRank.Toml.Document
import ClipRank.Weights.Json

/-!
The settings of the engine: where the server listens, the profile it scores with,
and the weights that are used until the weights file gives others.
-/

namespace ClipRank

structure EngineConfig where
  bindAddress : String
  profile : Profile
  weights : Weights Float
  weightsPath : Option String

namespace EngineConfig

open Toml (Table Value)

def standard : EngineConfig where
  bindAddress := "0.0.0.0:8080"
  profile := .classic
  weights := default
  weightsPath := none

/-- Where the settings are looked for by default. -/
def defaultPath : String := "config/engine.toml"

def text? : Value → Option String
  | .string text => some text
  | _ => none

/-- A number. A whole number has to fit a word, signed or not. -/
def number? : Value → Option Float
  | .float value => value
  | .integer value =>
    if 0 ≤ value ∧ value < Nat.pow 2 64 then some value.toNat.toUInt64.toFloat
    else if -(Nat.pow 2 63) ≤ value ∧ value < 0 then some (-value.natAbs.toUInt64.toFloat)
    else none
  | _ => none

def profileOfName? (name : String) : Option Profile :=
  if name = "classic" ∨ name = "v1" then some .classic
  else if name = "balanced" ∨ name = "v2" then some .balanced
  else none

/-- A profile by its name, which may also be the only key of a table, over nothing. -/
def profile? : Value → Option Profile
  | .string name => profileOfName? name
  | .table _ [(name, .table _ [])] => profileOfName? name
  | .table _ [(name, .array [] _)] => profileOfName? name
  | _ => none

/-- The value of a key that may be left out. -/
def entry? {α : Type} (table : Table) (key : String) (read : Value → Option α) : Option (Option α) :=
  match table.get? key with
  | none => some none
  | some value => (read value).map some

/-- Whether the values that nobody asks for are within their ranges. -/
def othersFit (table : Table) (known : List String) : Bool :=
  Toml.membersFit (table.filter fun member => !known.contains member.1)

/-- The weights in a table, or in an array in their order. A date or time holds none. -/
def weightEntries? : Value → Option Weights.Entries
  | .table _ table => do
    guard (othersFit table ["reach", "views", "engagement", "consistency", "community", "efficiency"])
    return {
      reach := ← entry? table "reach" number?
      views := ← entry? table "views" number?
      engagement := ← entry? table "engagement" number?
      consistency := ← entry? table "consistency" number?
      community := ← entry? table "community" number?
      efficiency := ← entry? table "efficiency" number? }
  | .array items _ => do
    let numbers ← (items.take 6).mapM number?
    return ⟨numbers[0]?, numbers[1]?, numbers[2]?, numbers[3]?, numbers[4]?, numbers[5]?⟩
  | .moment => some ⟨none, none, none, none, none, none⟩
  | _ => none

def weights? (value : Value) : Option (Weights Float) := do
  match (← weightEntries? value).toWeights with
  | .ok weights => some weights
  | .error _ => none

def ofTable? (table : Table) : Option EngineConfig := do
  guard (othersFit table ["bind_addr", "profile", "weights", "weights_path"])
  return {
    bindAddress := (← entry? table "bind_addr" text?).getD standard.bindAddress
    profile := (← entry? table "profile" profile?).getD standard.profile
    weights := ((← entry? table "weights" weights?).getD standard.weights).sanitized
    weightsPath := ← entry? table "weights_path" text? }

/-- The settings in a text. Keys that are not known are passed over. -/
def ofText (text : String) : Outcome EngineConfig :=
  match (Toml.read? text).bind ofTable? with
  | some config => .ok config
  | none => .fail .parsingEngine .toml

def ofFile (files : FileSystem) (path : String) : Outcome EngineConfig :=
  match files path with
  | .error fault => .fail (.readingEngine path) (.file fault)
  | .ok text => (ofText text).during (.inFile path)

/-- The settings from the path in `ENGINE_CONFIG_PATH`, or from the default path, or
the standard ones if nothing is there. -/
def load (files : FileSystem) (environment : Environment) : Outcome EngineConfig :=
  match environment "ENGINE_CONFIG_PATH" with
  | some path => ofFile files path
  | none => if files.present defaultPath then ofFile files defaultPath else .ok standard

end EngineConfig

end ClipRank
