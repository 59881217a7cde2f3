import ModelGateway.Json.Writer
import ModelGateway.Options
import ModelGateway.Sha256
import ModelGateway.Text.Utf8
import ModelGateway.Toml

/-!
# Configuration

The configuration file is a TOML document, or a section of one. The effective configuration takes
each of its parts from an environment variable that is not empty, else from the configuration,
else from a default.
-/
namespace ModelGateway

namespace Config

/-- The file that is read when no other is named. -/
def defaultFile : String := "bedrockio.toml"

/-- The section that stands for the whole file when a file has it. -/
def sectionName : String := "bedrockio"

def ofDocument (document : Toml.Table) : Object :=
  match document.node? sectionName with
  | some (.table settings) => Toml.Table.toObject settings
  | _ => document.toObject

/-- The configuration in the text of a file, whose lines may end in any of three ways. -/
def ofText (text : String) : Except Toml.Fault Object := do
  return ofDocument (← Toml.parse (String.ofList (Toml.unifyLines text.toList)))

/-- The configuration in a file, which counts as empty when it is not there. -/
def ofFile : Option String → Except Toml.Fault Object
  | some text => ofText text
  | none => .ok []

/-- The value of a part, by its environment variable and its key, before it is put in form. -/
def source (env : Environment) (config : Object) (name key : String) (default : Value) : Value :=
  match env.value? name with
  | some text => if text = "" then (Object.value? config key).getD default else .text text
  | none => (Object.value? config key).getD default

/-- A yes-or-no value. Numbers other than zero mean yes; texts that are neither yes nor no, and
null, mean the default. -/
def coerceFlag (v : Value) (default : Bool) : Bool :=
  match v with
  | .bool b => b
  | .null => default
  | .int n => n != 0
  | .float x => !x.isZero
  | v =>
    let word := Text.lower (Text.strip v.display)
    if Options.yesWords.contains word then true
    else if word = "" ∨ Options.noWords.contains word then false
    else default

/-- The text that stands for a configuration, whatever the order of its keys. -/
def canonicalText (config : Object) : String := Json.render .canonical (.object config)

def fingerprint (config : Object) : String :=
  Sha256.hex (Sha256.hash (Utf8.encode (canonicalText config)))

end Config

structure EffectiveConfig where
  region : String
  endpointUrl : Option String
  profileName : Option String
  textModel : Value
  chatModel : Value
  embeddingModel : Value
  imageModel : Value
  strictDecoding : Bool
  logEvents : Bool
  deriving Repr

namespace EffectiveConfig

def defaultRegion : String := "us-east-1"

def make (config : Object) (env : Environment) : EffectiveConfig :=
  let part := Config.source env config
  { region := (part "AWS_REGION" "region" (.text defaultRegion)).optionalText.getD defaultRegion
    endpointUrl := (part "BEDROCK_ENDPOINT_URL" "endpoint_url" .null).optionalText
    profileName := (part "AWS_PROFILE" "profile_name" .null).optionalText
    textModel := part "BEDROCK_TEXT_MODEL" "text_model" (.text "amazon.titan-text-express-v1")
    chatModel :=
      part "BEDROCK_CHAT_MODEL" "chat_model" (.text "anthropic.claude-3-haiku-20240307-v1:0")
    embeddingModel :=
      part "BEDROCK_EMBEDDING_MODEL" "embedding_model" (.text "amazon.titan-embed-text-v2:0")
    imageModel :=
      part "BEDROCK_IMAGE_MODEL" "image_model" (.text "stability.stable-diffusion-xl-v1")
    strictDecoding :=
      Config.coerceFlag (part "BEDROCK_STRICT_DECODING" "strict_decoding" (.bool false)) false
    logEvents := Config.coerceFlag (part "BEDROCK_LOG_EVENTS" "log_events" (.bool true)) true }

def toObject (c : EffectiveConfig) : Object :=
  [("region", .text c.region), ("endpoint_url", .ofText? c.endpointUrl),
   ("profile_name", .ofText? c.profileName), ("text_model", c.textModel),
   ("chat_model", c.chatModel), ("embedding_model", c.embeddingModel),
   ("image_model", c.imageModel), ("strict_decoding", .bool c.strictDecoding),
   ("log_events", .bool c.logEvents)]

end EffectiveConfig
end ModelGateway
