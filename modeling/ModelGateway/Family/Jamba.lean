import ModelGateway.Adapter

/-!
# Jamba: text and chat
-/
namespace ModelGateway.Jamba

def schema : Schema :=
  [.inferred "temperature" "temperature" (.float 1.0),
   .inferred "top_p" "top_p" (.float 1.0),
   .inferred "max_tokens" "max_tokens" (.int 4096),
   .unset "stop" "stop" .textList,
   .unset "n" "n" .int,
   .unset "frequency_penalty" "frequency_penalty" .float,
   .unset "presence_penalty" "presence_penalty" .float]

def sampling (record : Object) : Sampling where
  temperature := Object.value record "temperature"
  topP := Object.value record "top_p"
  maxTokens := Object.value record "max_tokens"
  stop := Object.value record "stop"

/-- The fields that a converse request carries beyond the sampling parameters. -/
def additional (record : Object) : Object :=
  Object.dropNull (["n", "frequency_penalty", "presence_penalty"].map fun name =>
    (name, Object.value record name))

/-- The prompt as the one message of a user. -/
def textRequest (prompt : Value) (settings : Settings) : Except Conversion Object := do
  let record ← schema.read settings
  let s := sampling record
  let message : Value := .object [("role", .text "user"), ("content", prompt)]
  return Object.dropNull [("messages", .list [message]), ("temperature", s.temperature),
    ("top_p", s.topP), ("max_tokens", s.maxTokens), ("stop", s.stop)] ++ additional record

/-- The completion of one choice, unless it has no text. -/
def completion? (modelId : String) (choice : Object) : Option Completion :=
  ((Object.value choice "message").member "content").fragment.map fun text =>
    ⟨text, modelId, Object.value choice "finish_reason", []⟩

def completions (modelId : String) (payload : Object) : Except Conversion (List Completion) := do
  return (← (Object.value payload "choices").elementObjects).filterMap (completion? modelId)

def fragment (chunk : Object) : Option String :=
  match Object.value chunk "choices" with
  | .list (first :: _) => ((first.member "delta").member "content").fragment
  | _ => none

def converseRequest (modelId : String) (turns : List Turn) (settings : Settings) :
    Except Fault Object := do
  let record ← Fault.ofConversion (schema.read settings)
  let inference ← Fault.ofConversion (sampling record).toConverse
  let request ← Fault.ofGateway
    (ConverseRequest.make modelId turns inference (additional record) none)
  return request.toObject

def adapter : Adapter :=
  { Adapter.bare "AI21JambaIO" "ai21" with
    textRequest? := some fun _ prompt settings => Fault.ofConversion (textRequest prompt settings)
    completions? := some fun modelId => Body.decodeWith (completions modelId)
    fragment? := some fun chunk => .ok (fragment chunk)
    converseRequest? := some converseRequest }

end ModelGateway.Jamba
