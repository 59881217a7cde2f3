import ModelGateway.Adapter

/-!
# Claude: text and chat

Newer models take the Messages format, older ones a prompt with `Human` and `Assistant` marks.
-/
namespace ModelGateway.Claude

def schema : Schema :=
  [.inferred "temperature" "temperature" (.float 1.0),
   .inferred "top_p" "top_p" (.float 0.999),
   .inferred "top_k" "top_k" (.int 250),
   .inferred "max_tokens_to_sample" "max_tokens_to_sample" (.int 512),
   .unset "stop_sequences" "stop_sequences" .textList,
   .unset "tools" "tools" .list,
   .unset "tool_choice" "tool_choice" .object]

def sampling (record : Object) : Sampling where
  temperature := Object.value record "temperature"
  topP := Object.value record "top_p"
  maxTokens := Object.value record "max_tokens_to_sample"
  stop := Object.value record "stop_sequences"

def usesMessages (modelId : String) : Bool :=
  Text.holds modelId "claude-3" || Text.holds modelId "claude-sonnet-4" ||
    Text.holds modelId "claude-opus-4"

def modelsWithoutTools : List String := ["anthropic.claude-instant-v1"]

def supportsTools (modelId : String) : Bool := !modelsWithoutTools.contains modelId

def formatVersion : String := "bedrock-2023-05-31"

def textRequest (modelId : String) (prompt : Value) (settings : Settings) :
    Except Conversion Object := do
  let record ← schema.read settings
  let s := sampling record
  let common : Object :=
    [("temperature", s.temperature), ("top_p", s.topP), ("top_k", Object.value record "top_k"),
     ("stop_sequences", s.stop)]
  if usesMessages modelId then
    let block : Value := .object [("type", .text "text"), ("text", prompt)]
    let message : Value := .object [("role", .text "user"), ("content", .list [block])]
    return Object.dropNull ([("anthropic_version", .text formatVersion),
      ("max_tokens", s.maxTokens), ("messages", .list [message])] ++ common)
  else
    return Object.dropNull ([("prompt", .text s!"\n\nHuman: {prompt.display}\n\nAssistant:"),
      ("max_tokens_to_sample", s.maxTokens)] ++ common)

/-- The text of a content block of type `text`. -/
def blockText? (block : Object) : Option String :=
  match Object.value block "type" with
  | .text "text" => (Object.value block "text").fragment
  | _ => none

/-- A whole completion, or the text blocks of a Messages response joined. -/
def completions (modelId : String) (payload : Object) : Except Conversion (List Completion) := do
  let finish := Object.value payload "stop_reason"
  match (Object.value payload "completion").fragment with
  | some text => return [⟨text, modelId, finish, []⟩]
  | none =>
    let parts := (← (Object.value payload "content").elementObjects).filterMap blockText?
    if parts.isEmpty then return []
    else return [⟨String.join parts, modelId, finish, []⟩]

/-- A completion fragment, or the text of a content block delta. -/
def fragment (chunk : Object) : Option String :=
  match (Object.value chunk "completion").fragment with
  | some text => some text
  | none =>
    match Object.value chunk "type" with
    | .text "content_block_delta" => ((Object.value chunk "delta").member "text").fragment
    | _ => none

/-- The tools of a request, with the choice among them if there is one. -/
def toolConfig (modelId : String) (record : Object) : Option Object :=
  let tools := Object.value record "tools"
  if tools.isTruthy && supportsTools modelId then
    some (Object.dropNull [("tools", tools), ("toolChoice", Object.value record "tool_choice")])
  else none

def converseRequest (modelId : String) (turns : List Turn) (settings : Settings) :
    Except Fault Object := do
  let record ← Fault.ofConversion (schema.read settings)
  let inference ← Fault.ofConversion (sampling record).toConverse
  let request ← Fault.ofGateway
    (ConverseRequest.make modelId turns inference [] (toolConfig modelId record))
  return request.toObject

def adapter : Adapter :=
  { Adapter.bare "AnthropicClaudeIO" "anthropic" with
    textRequest? := some fun modelId prompt settings =>
      Fault.ofConversion (textRequest modelId prompt settings)
    completions? := some fun modelId => Body.decodeWith (completions modelId)
    fragment? := some fun chunk => .ok (fragment chunk)
    converseRequest? := some converseRequest }

end ModelGateway.Claude
