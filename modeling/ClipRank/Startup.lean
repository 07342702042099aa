import ClipRank.Config.Engine
import ClipRank.EnvironmentFile
import ClipRank.Log
import ClipRank.Service
import ClipRank.Translator.Chat

/-!
Starting the server, up to the point where it listens.
-/

namespace ClipRank

/-- A service that is ready to listen. -/
structure Setup where
  service : Service
  address : String
  weightsPath : String

namespace Setup

def ofConfig (engine : EngineConfig) (translator : Translator) : Setup where
  service := ⟨engine.profile, .start engine.weights, translator⟩
  address := engine.bindAddress
  weightsPath := engine.weightsPath.getD defaultWeightsPath

end Setup

/-- Whether the part of an address behind its last colon is a number to listen on. A plus
sign may stand before the digits. -/
def isListenNumber (text : List Char) : Bool :=
  let digits := match text with
    | '+' :: rest => rest
    | _ => text
  !digits.isEmpty && digits.all Char.isDigit &&
    digits.foldl (fun value c => 10 * value + (c.toNat - 48)) 0 ≤ 65535

/-- One of the four numbers of an address, written without needless zeros. -/
def octet? (text : String) : Option Nat := do
  let value ← text.toNat?
  guard (value < 256 ∧ toString value = text)
  return value

/-- Whether a host is given by four numbers that are those of a single other machine:
neither of this one, nor of all, nor of a group. -/
def isForeign (host : String) : Bool :=
  match (host.splitToList (· = '.')).mapM octet? with
  | some [a, b, c, d] => a ≠ 127 && a < 224 && [a, b, c, d] ≠ [0, 0, 0, 0]
  | _ => false

/-- What is wrong with an address before the network is asked. -/
def addressFault? (address : String) : Option AddressFault :=
  let number := (address.toList.reverse.takeWhile (· ≠ ':')).reverse
  if number.length = address.length then some .socket
  else if !isListenNumber number then some .number
  else if isForeign (String.ofList (address.toList.take (address.length - number.length - 1))) then some .foreign
  else none

namespace Startup

/-- The settings of the translator, and what is said if they cannot be used. -/
def translatorConfig (files : FileSystem) (environment : Environment) : TranslatorConfig × List LogEvent :=
  match TranslatorConfig.load files environment with
  | .ok config => (config, [])
  | .error failure =>
    (.standard, [⟨.warn, LogFilter.server,
      [("message", .string "translator config unusable; translator disabled"),
        ("error", .string (failure.messages.headD ""))]⟩])

/-- What is said of a provider that nobody knows. -/
def providerEvents (config : TranslatorConfig) (environment : Environment) : List LogEvent :=
  let known := config.provider = "mock" ∨ config.provider = "openai"
  if environment "TRANSLATOR_TEST_MODE" = some "mock" ∨ !config.enabled ∨ known then []
  else [⟨.warn, "translate",
    [("message", .string "unknown translator provider; translator disabled"),
      ("provider", .string config.provider)]⟩]

def readyEvent (setup : Setup) : LogEvent :=
  ⟨.info, LogFilter.server,
    [("message", .string "engine configured"), ("profile", .string setup.service.profile.name),
      ("translator", .string setup.service.translator.name), ("weights_path", .string setup.weightsPath)]⟩

/-- Reads the settings and checks the address. The events tell what happened on the
way. -/
def run (files : FileSystem) (environment : Environment) (deliver : ChatRequest → Delivery) :
    List LogEvent × Outcome Setup :=
  match (EngineConfig.load files environment).during .loadingEngine with
  | .error failure => ([], .error failure)
  | .ok engine =>
    let (config, warnings) := translatorConfig files environment
    let setup := Setup.ofConfig engine (.ofConfig config environment deliver)
    let events := warnings ++ providerEvents config environment ++ [readyEvent setup]
    match addressFault? engine.bindAddress with
    | some fault => (events, .fail (.binding engine.bindAddress) (.address fault))
    | none => (events, .ok setup)

/-- The environment with the variables of the file `.env`, if there is one. -/
def environment (files : FileSystem) (given : Environment) : Environment :=
  match files ".env" with
  | .ok text => EnvironmentFile.load given text
  | .error _ => given

end Startup

end ClipRank
