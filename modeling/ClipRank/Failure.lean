import ClipRank.Component
import ClipRank.Files
import ClipRank.Json.Fault
import ClipRank.Query.Text

/-!
Failures of a program run: a cause, and what was being done when it arose.
-/

namespace ClipRank

/-- Why a text is no address to listen on. -/
inductive AddressFault where
  | number
  | socket
  /-- It belongs to another machine. -/
  | foreign
deriving Repr, DecidableEq

namespace AddressFault

def message : AddressFault → String
  | number => "invalid port value"
  | socket => "invalid socket address"
  | foreign => "Cannot assign requested address (os error 99)"

end AddressFault

inductive Cause where
  | file (fault : FileFault)
  | json (fault : Json.Fault)
  | toml
  | missingKey
  | unsupportedProvider (provider : String)
  | unknownProfile (name : String)
  | rejection (rejection : Rejection)
  | address (fault : AddressFault)
  | usage

namespace Cause

def message : Cause → String
  | file fault => fault.message
  | json .malformed => "the text is not JSON"
  | json (.mismatch _ cause) => cause.message
  | toml => "the text holds no settings"
  | missingKey => "Missing OPENAI_API_KEY env var"
  | unsupportedProvider provider => "Unsupported provider in config: " ++ provider
  | unknownProfile name => Profile.unknownMessage name
  | rejection given => given.message
  | address fault => fault.message
  | usage => "usage: score_file <records.json> [query] [classic|balanced]"

end Cause

/-- What was being done. -/
inductive Activity where
  | readingEngine (path : String)
  | parsingEngine
  | inFile (path : String)
  | loadingEngine
  | readingTranslator (path : String)
  | parsingTranslator (path : String)
  | readingRecords (path : String)
  | parsingRecords (path : String)
  | loadingRecords
  | query
  | binding (address : String)

namespace Activity

def message : Activity → String
  | readingEngine path => "reading engine config " ++ path
  | parsingEngine => "parsing engine config TOML"
  | inFile path => "in " ++ path
  | loadingEngine => "loading engine config"
  | readingTranslator path => "reading translator config " ++ path
  | parsingTranslator path => "parsing translator config " ++ path
  | readingRecords path => "reading records from " ++ path
  | parsingRecords path => "parsing records in " ++ path
  | loadingRecords => "loading records"
  | query => "query rejected"
  | binding address => "binding " ++ address

end Activity

structure Failure where
  /-- The outermost activity first. -/
  activities : List Activity
  cause : Cause

namespace Failure

def ofCause (cause : Cause) : Failure :=
  ⟨[], cause⟩

/-- The same failure seen from one activity further out. -/
def during (activity : Activity) (failure : Failure) : Failure :=
  { failure with activities := activity :: failure.activities }

/-- The failure in words, the outermost first. -/
def messages (failure : Failure) : List String :=
  failure.activities.map Activity.message ++ [failure.cause.message]

/-- A message with each of its lines set in, behind a number if there are several. -/
def setIn (number : Option Nat) (message : String) : List String :=
  let (first, further) := match number with
    | some number => ("    " ++ toString number ++ ": ", "       ")
    | none => ("    ", "    ")
  match message.splitToList (· = '\n') with
  | [] => []
  | line :: rest => (first ++ line) :: rest.map (further ++ ·)

/-- The lines that report a failure to the user. -/
def report (failure : Failure) : List String :=
  match failure.messages with
  | [] => []
  | first :: causes =>
    let explained := match causes with
      | [] => []
      | [cause] => "" :: "Caused by:" :: setIn none cause
      | causes => "" :: "Caused by:" :: (causes.zipIdx.map fun (cause, number) => setIn (some number) cause).flatten
    ("Error: " ++ first) :: explained

end Failure

/-- The result of a step of a program. -/
abbrev Outcome (α : Type) := Except Failure α

namespace Outcome

def fail {α : Type} (activity : Activity) (cause : Cause) : Outcome α :=
  .error ⟨[activity], cause⟩

def during {α : Type} (activity : Activity) (outcome : Outcome α) : Outcome α :=
  outcome.mapError (.during activity)

end Outcome

end ClipRank
