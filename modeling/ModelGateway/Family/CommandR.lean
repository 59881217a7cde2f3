import ModelGateway.Adapter

/-!
# Command R: text and chat

A converse request of this family carries the conversation twice: in the converse format, and among
the additional fields as a message with the history before it. The message is the last spoken turn
when the user spoke it, and empty otherwise.
-/
namespace ModelGateway.CommandR

def schema : Schema :=
  [.inferred "temperature" "temperature" (.float 0.3),
   .inferred "p" "p" (.float 0.75),
   .inferred "k" "k" (.float 0.0),
   .inferred "max_tokens" "max_tokens" (.int 512),
   .inferred "prompt_truncation" "prompt_truncation" (.text "OFF"),
   .inferred "frequency_penalty" "frequency_penalty" (.float 0.0),
   .inferred "presence_penalty" "presence_penalty" (.float 0.0),
   .unset "seed" "seed" .int,
   .inferred "return_prompt" "return_prompt" (.bool false),
   .inferred "raw_prompting" "raw_prompting" (.bool false),
   .unset "stop_sequences" "stop_sequences" .textList,
   .unset "tools" "tools" .list,
   .unset "tool_results" "tool_results" .list,
   .unset "preamble" "preamble" .text,
   .unset "documents" "documents" .list,
   .unset "search_queries_only" "search_queries_only" .bool]

def sampling (record : Object) : Sampling where
  temperature := Object.value record "temperature"
  topP := Object.value record "p"
  maxTokens := Object.value record "max_tokens"
  stop := Object.value record "stop_sequences"

/-- The fields that the text body and the additional fields of a converse request share. -/
def sharedNames : List String :=
  ["k", "prompt_truncation", "frequency_penalty", "presence_penalty", "seed", "return_prompt",
   "raw_prompting", "stop_sequences", "tools", "tool_results", "preamble", "documents",
   "search_queries_only"]

def sharedFields (record : Object) : Object :=
  Object.dropNull (sharedNames.map fun name => (name, Object.value record name))

def textRequest (prompt : Value) (settings : Settings) : Except Conversion Object := do
  let record ← schema.read settings
  let s := sampling record
  return [("message", prompt), ("temperature", s.temperature), ("p", s.topP),
    ("max_tokens", s.maxTokens)] ++ sharedFields record

/-- A conversation as a message, the turns before it, and the system texts. -/
structure Exchange where
  message : Value
  history : List Utterance
  system : List Value
  deriving Repr

/-- The spoken turns of messages without a system role. -/
def utterances : List Message → Except GatewayError (List Utterance)
  | [] => .ok []
  | m :: rest => do
    let speaker ← Speaker.ofRole (.text m.role)
    let others ← utterances rest
    return ⟨speaker, m.content⟩ :: others

/-- Splits a conversation. The role of the last turn is looked at first. -/
def Exchange.ofTurns (turns : List Turn) : Except GatewayError Exchange := do
  let messages := turns.map Turn.toMessage
  let system := (messages.filter Message.isSystem).map Message.content
  let spoken := messages.filter fun m => !m.isSystem
  match spoken.getLast? with
  | none => return ⟨.text "", [], system⟩
  | some last =>
    match ← Speaker.ofRole (.text last.role) with
    | .user => return ⟨last.content, ← utterances spoken.dropLast, system⟩
    | .assistant => return ⟨.text "", ← utterances spoken, system⟩

def speakerName : Speaker → String
  | .user => "USER"
  | .assistant => "CHATBOT"

def historyEntry (u : Utterance) : Value :=
  .object [("role", .text (speakerName u.speaker)), ("message", u.content)]

def joinLines (texts : List Value) : Except Conversion String := do
  return "\n".intercalate (← Value.toTexts texts)

/-- The preamble that the system texts give when the settings give none. -/
def preamble (shared : Object) (system : List Value) : Except Conversion Object := do
  if Object.holds shared "preamble" || system.isEmpty then return []
  else return [("preamble", .text (← joinLines system))]

def additional (exchange : Exchange) (record : Object) : Except Conversion Object := do
  let shared := sharedFields record
  return [("message", exchange.message),
    ("chat_history", .list (exchange.history.map historyEntry))] ++ shared ++
    (← preamble shared exchange.system)

def converseRequest (modelId : String) (turns : List Turn) (settings : Settings) :
    Except Fault Object := do
  let record ← Fault.ofConversion (schema.read settings)
  let exchange ← Fault.ofGateway (Exchange.ofTurns turns)
  let extra ← Fault.ofConversion (additional exchange record)
  let inference ← Fault.ofConversion (sampling record).toConverse
  let request ← Fault.ofGateway (ConverseRequest.make modelId turns inference extra none)
  return request.toObject

def completions (modelId : String) (payload : Object) : List Completion :=
  match (Object.value payload "text").fragment with
  | some text => [⟨text, modelId, Object.value payload "finish_reason", []⟩]
  | none => []

def fragment (chunk : Object) : Option String := (Object.value chunk "text").fragment

def adapter : Adapter :=
  { Adapter.bare "CohereCommandRIO" "cohere" with
    textRequest? := some fun _ prompt settings => Fault.ofConversion (textRequest prompt settings)
    completions? := some fun modelId => Body.decodeWith fun o => .ok (completions modelId o)
    fragment? := some fun chunk => .ok (fragment chunk)
    converseRequest? := some converseRequest }

end ModelGateway.CommandR
