import ModelGateway.Adapter

/-!
# Llama: text and chat
-/
namespace ModelGateway.Llama

def schema : Schema :=
  [.inferred "temperature" "temperature" (.float 0.5),
   .inferred "top_p" "top_p" (.float 0.9),
   .inferred "max_gen_len" "max_gen_len" (.int 512)]

def sampling (record : Object) : Sampling where
  temperature := Object.value record "temperature"
  topP := Object.value record "top_p"
  maxTokens := Object.value record "max_gen_len"
  stop := .null

def textRequest (prompt : Value) (settings : Settings) : Except Conversion Object := do
  let s := sampling (← schema.read settings)
  return [("prompt", prompt), ("temperature", s.temperature), ("top_p", s.topP),
    ("max_gen_len", s.maxTokens)]

def completions (modelId : String) (payload : Object) : List Completion :=
  match (Object.value payload "generation").fragment with
  | some text => [⟨text, modelId, Object.value payload "stop_reason", []⟩]
  | none => []

def fragment (chunk : Object) : Option String := (Object.value chunk "generation").fragment

def converseRequest (modelId : String) (turns : List Turn) (settings : Settings) :
    Except Fault Object := do
  let inference ← Fault.ofConversion do (sampling (← schema.read settings)).toConverse
  let request ← Fault.ofGateway (ConverseRequest.make modelId turns inference [] none)
  return request.toObject

def adapter : Adapter :=
  { Adapter.bare "MetaLlamaIO" "meta" with
    textRequest? := some fun _ prompt settings => Fault.ofConversion (textRequest prompt settings)
    completions? := some fun modelId => Body.decodeWith fun o => .ok (completions modelId o)
    fragment? := some fun chunk => .ok (fragment chunk)
    converseRequest? := some converseRequest }

end ModelGateway.Llama
