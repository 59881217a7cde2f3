import ModelGateway.Adapter

/-!
# Titan: text, chat and embeddings
-/
namespace ModelGateway.Titan

def schema : Schema :=
  [.inferred "temperature" "temperature" (.float 0.7),
   .inferred "top_p" "topP" (.float 0.9),
   .inferred "max_token_count" "maxTokenCount" (.int 512),
   ⟨"stop_sequences", "stopSequences", .list [], .textList⟩]

def sampling (record : Object) : Sampling where
  temperature := Object.value record "temperature"
  topP := Object.value record "top_p"
  maxTokens := Object.value record "max_token_count"
  stop := Object.value record "stop_sequences"

def textRequest (prompt : Value) (settings : Settings) : Except Conversion Object := do
  let s := sampling (← schema.read settings)
  return [("inputText", prompt),
    ("textGenerationConfig", .object
      [("temperature", s.temperature), ("topP", s.topP), ("maxTokenCount", s.maxTokens),
       ("stopSequences", s.stop)])]

/-- The first result only; how many more there were goes into the metadata. -/
def completions (modelId : String) (payload : Object) : Except Conversion (List Completion) := do
  match ← (Object.value payload "results").elementObjects with
  | [] => return []
  | first :: others =>
    let discarded : Object :=
      if others.isEmpty then [] else [("discarded_candidates", .int others.length)]
    let tokens : Object :=
      match Object.value? payload "inputTextTokenCount" with
      | some count => [("input_tokens", count)]
      | none => []
    return [{ text := (Object.value first "outputText").displayOrEmpty
              modelId
              finishReason := Object.value first "completionReason"
              metadata := discarded ++ tokens }]

def fragment (chunk : Object) : Option String := (Object.value chunk "outputText").fragment

def converseRequest (modelId : String) (turns : List Turn) (settings : Settings) :
    Except Fault Object := do
  let inference ← Fault.ofConversion do (sampling (← schema.read settings)).toConverse
  let request ← Fault.ofGateway (ConverseRequest.make modelId turns inference [] none)
  return request.toObject

def embeddingDimensions : Int := 512

/-- First-generation models, known by `v1` in their id, take no dimensions. -/
def embeddingRequest (modelId : String) (text : Value) : Object :=
  if Text.holds modelId "v1" then [("inputText", text)]
  else [("inputText", text), ("dimensions", .int embeddingDimensions), ("normalize", .bool true)]

/-- The doubles of a list; any other value gives the empty vector. -/
def vector : Value → Except Conversion (List Binary64)
  | .list items => items.mapM Value.toFloat
  | _ => .ok []

def embedding (payload : Object) : Except Conversion (List Binary64) :=
  vector (Object.value payload "embedding")

def adapter : Adapter :=
  { Adapter.bare "AmazonTitanIO" "amazon" with
    textRequest? := some fun _ prompt settings => Fault.ofConversion (textRequest prompt settings)
    completions? := some fun modelId => Body.decodeWith (completions modelId)
    fragment? := some fun chunk => .ok (fragment chunk)
    converseRequest? := some converseRequest
    embeddingRequest? := some fun modelId text => .ok (embeddingRequest modelId text)
    embedding? := some (Body.decodeWith embedding) }

end ModelGateway.Titan
