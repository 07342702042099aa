import ClipRank.Failure
import ClipRank.Json.Shape
import ClipRank.Text.Lowercase

/-!
The settings of the translator.
-/

namespace ClipRank

open Json (Decoder Shape Field)

structure TranslatorConfig where
  enabled : Bool
  provider : String
  model : String
  /-- The word `ENV` stands for the key in the environment. -/
  apiKey : String
  baseUrl : String
  timeoutSeconds : UInt64

namespace TranslatorConfig

def standard : TranslatorConfig where
  enabled := false
  provider := "openai"
  model := "gpt-4o-mini"
  apiKey := ""
  baseUrl := "https://api.openai.com/v1"
  timeoutSeconds := 10

/-- Where the settings are looked for by default. -/
def defaultPath : String := "config/translator.json"

def shape : Shape TranslatorConfig where
  name := "struct TranslatorConfig"
  start := standard
  fields := [
    Field.make "enabled" .default Decoder.boolean fun value held => { held with enabled := value },
    Field.make "provider" .default Decoder.string fun value held => { held with provider := value },
    Field.make "model" .default Decoder.string fun value held => { held with model := value },
    Field.make "api_key" .default Decoder.string fun value held => { held with apiKey := value },
    Field.make "base_url" .default Decoder.string fun value held => { held with baseUrl := value },
    Field.make "timeout_secs" .default (Decoder.word "u64") fun value held => { held with timeoutSeconds := value }]

def decoder : Decoder TranslatorConfig :=
  shape.decoder

def toJson (config : TranslatorConfig) : Json :=
  .object [("enabled", .boolean config.enabled), ("provider", .string config.provider),
    ("model", .string config.model), ("api_key", .string config.apiKey),
    ("base_url", .string config.baseUrl), ("timeout_secs", .ofUInt64 config.timeoutSeconds)]

/-- A text without slashes at its end. -/
def withoutSlashes (text : String) : String :=
  String.ofList (text.toList.reverse.dropWhile (· = '/')).reverse

/-- The key to use. Only settings that are enabled look into the environment. -/
def resolveKey (config : TranslatorConfig) (environment : Environment) : Outcome String :=
  if config.enabled ∧ (Text.trim config.apiKey).map Char.toLower = "env" then
    if config.provider = "openai" then
      match environment "OPENAI_API_KEY" with
      | some key => .ok key
      | none => .error (.ofCause .missingKey)
    else if config.provider = "mock" then .ok ""
    else .error (.ofCause (.unsupportedProvider config.provider))
  else .ok config.apiKey

/-- The settings in normal form, with the key resolved. -/
def resolve (config : TranslatorConfig) (environment : Environment) : Outcome TranslatorConfig := do
  let config := { config with
    provider := Text.lowercase (Text.trim config.provider)
    baseUrl := withoutSlashes config.baseUrl }
  return { config with
    apiKey := ← config.resolveKey environment
    timeoutSeconds := if config.timeoutSeconds = 0 then standard.timeoutSeconds else config.timeoutSeconds }

def ofFile (files : FileSystem) (environment : Environment) (path : String) : Outcome TranslatorConfig :=
  match files path with
  | .error fault => .fail (.readingTranslator path) (.file fault)
  | .ok text =>
    match Decoder.ofText decoder text with
    | .error fault => .fail (.parsingTranslator path) (.json fault)
    | .ok config => config.resolve environment

/-- The settings from the path in `TRANSLATOR_CONFIG_PATH`, or from the default path,
or the standard ones if nothing is there. -/
def load (files : FileSystem) (environment : Environment) : Outcome TranslatorConfig :=
  match environment "TRANSLATOR_CONFIG_PATH" with
  | some path => ofFile files environment path
  | none => if files.present defaultPath then ofFile files environment defaultPath else .ok standard

end TranslatorConfig

end ClipRank
