import ModelGateway.Adapter

/-!
# Jurassic: text

A penalty is sent when it has a scale, with the documented fields that are not null.
-/
namespace ModelGateway.Jurassic

def schema : Schema :=
  [.inferred "temperature" "temperature" (.float 0.5),
   .inferred "top_p" "topP" (.float 0.5),
   .inferred "max_tokens" "maxTokens" (.int 200),
   ⟨"stop_sequences", "stopSequences", .list [], .textList⟩,
   .unset "count_penalty" "countPenalty" .object,
   .unset "presence_penalty" "presencePenalty" .object,
   .unset "frequency_penalty" "frequencyPenalty" .object]

/-- The documented fields of a penalty. -/
def penaltyKeys : List String :=
  ["scale", "applyToWhitespaces", "applyToPunctuations", "applyToNumbers", "applyToStopwords",
   "applyToEmojis"]

/-- The documented fields of a penalty that mentions a scale; null for any other. -/
def penalty : Value → Value
  | .object o =>
    if Object.holds o "scale" then
      .object (Object.dropNull (penaltyKeys.map fun key => (key, Object.value o key)))
    else .null
  | _ => .null

def textRequest (prompt : Value) (settings : Settings) : Except Conversion Object := do
  let record ← schema.read settings
  let field := Object.value record
  return Object.dropNull [("prompt", prompt), ("temperature", field "temperature"),
    ("topP", field "top_p"), ("maxTokens", field "max_tokens"),
    ("stopSequences", field "stop_sequences"),
    ("countPenalty", penalty (field "count_penalty")),
    ("presencePenalty", penalty (field "presence_penalty")),
    ("frequencyPenalty", penalty (field "frequency_penalty"))]

/-- The completion of one entry, unless it has no text. -/
def completion? (modelId : String) (entry : Object) : Option Completion :=
  ((Object.value entry "data").member "text").fragment.map fun text =>
    ⟨text, modelId, (Object.value entry "finishReason").member "reason", []⟩

def completions (modelId : String) (payload : Object) : Except Conversion (List Completion) := do
  return (← (Object.value payload "completions").elementObjects).filterMap (completion? modelId)

def adapter : Adapter :=
  { Adapter.bare "AI21JurassicIO" "ai21" with
    textRequest? := some fun _ prompt settings => Fault.ofConversion (textRequest prompt settings)
    completions? := some fun modelId => Body.decodeWith (completions modelId) }

end ModelGateway.Jurassic
