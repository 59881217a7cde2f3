import ModelGateway.Adapter

/-!
# Mistral: text and chat
-/
namespace ModelGateway.Mistral

def schema : Schema :=
  [.inferred "temperature" "temperature" (.float 0.5),
   .inferred "top_p" "top_p" (.float 0.9),
   .unset "top_k" "top_k" .int,
   .inferred "max_tokens" "max_tokens" (.int 512),
   .unset "stop" "stop" .textList]

def sampling (record : Object) : Sampling where
  temperature := Object.value record "temperature"
  topP := Object.value record "top_p"
  maxTokens := Object.value record "max_tokens"
  stop := Object.value record "stop"

def textRequest (prompt : Value) (settings : Settings) : Except Conversion Object := do
  let record ← schema.read settings
  let s := sampling record
  return Object.dropNull [("prompt", prompt), ("max_tokens", s.maxTokens),
    ("temperature", s.temperature), ("top_p", s.topP), ("top_k", Object.value record "top_k"),
    ("stop", s.stop)]

/-- The completion of one output, unless it has no text. -/
def completion? (modelId : String) (output : Object) : Option Completion :=
  (Object.value output "text").fragment.map fun text =>
    ⟨text, modelId, Object.value output "stop_reason", []⟩

def completions (modelId : String) (payload : Object) : Except Conversion (List Completion) := do
  return (← (Object.value payload "outputs").elementObjects).filterMap (completion? modelId)

def fragment (chunk : Object) : Option String :=
  match Object.value chunk "outputs" with
  | .list (first :: _) => (first.member "text").fragment
  | _ => none

/-- The fields that a converse request carries beyond the sampling parameters. -/
def additional (record : Object) : Object :=
  Object.dropNull [("top_k", Object.value record "top_k")]

def converseRequest (modelId : String) (turns : List Turn) (settings : Settings) :
    Except Fault Object := do
  let record ← Fault.ofConversion (schema.read settings)
  let inference ← Fault.ofConversion (sampling record).toConverse
  let request ← Fault.ofGateway
    (ConverseRequest.make modelId turns inference (additional record) none)
  return request.toObject

def adapter : Adapter :=
  { Adapter.bare "MistralIO" "mistral" with
    textRequest? := some fun _ prompt settings => Fault.ofConversion (textRequest prompt settings)
    completions? := some fun modelId => Body.decodeWith (completions modelId)
    fragment? := some fun chunk => .ok (fragment chunk)
    converseRequest? := some converseRequest }

end ModelGateway.Mistral
