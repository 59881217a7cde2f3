import ModelGateway.Chat
import ModelGateway.Settings

/-!
# The converse format

Chat models share one request format, one response format and one format of stream events. The
request holds the spoken turns and the system texts of a conversation apart, with the sampling
parameters and whatever fields a model takes beyond them.
-/
namespace ModelGateway

namespace Utterance

/-- A spoken turn as one message with one text block. -/
def toConverse (u : Utterance) : Value :=
  .object [("role", .text u.speaker.name), ("content", .list [.object [("text", u.content)]])]

end Utterance

namespace Transcript

def converseMessages (t : Transcript) : List Value := t.spoken.map Utterance.toConverse

def converseSystem (t : Transcript) : List Value := t.system.map fun s => .object [("text", s)]

end Transcript

/-- The sampling parameters of a request; null means unset. -/
structure Sampling where
  temperature : Value
  topP : Value
  maxTokens : Value
  stop : Value
  deriving Repr

/-- The sampling parameters that are set, under their names in the converse format. -/
def Sampling.toConverse (s : Sampling) : Except Conversion Object := do
  let stop ← match s.stop with
    | .null => pure .null
    | v => Value.list <$> v.iterate
  return Object.dropNull [("temperature", s.temperature), ("topP", s.topP),
    ("maxTokens", s.maxTokens), ("stopSequences", stop)]

structure ConverseRequest where
  modelId : String
  transcript : Transcript
  inference : Object
  additional : Object
  tools : Option Object
  deriving Repr

namespace ConverseRequest

def toObject (r : ConverseRequest) : Object :=
  [("modelId", .text r.modelId),
   ("messages", .list r.transcript.converseMessages),
   ("system", .list r.transcript.converseSystem),
   ("inferenceConfig", .object r.inference),
   ("additionalModelRequestFields", .object r.additional)] ++
  match r.tools with
  | some tools => [("toolConfig", .object tools)]
  | none => []

def make (modelId : String) (turns : List Turn) (inference additional : Object)
    (tools : Option Object) : Except GatewayError ConverseRequest :=
  (Transcript.ofTurns turns).map fun t => ⟨modelId, t, inference, additional, tools⟩

end ConverseRequest

structure Reply where
  role : String
  content : String
  modelId : String
  finishReason : Option String
  metadata : Object
  deriving Repr

namespace Reply

/-- The text of a content block, unless it has none. -/
def blockText? (block : Value) : Option String :=
  match block.member "text" with
  | .null => none
  | v => some v.display

/-- One reply for each text block of a converse response. -/
def ofResponse (response : Value) (modelId : String) : Except Conversion (List Reply) :=
  let message := (response.member "output").member "message"
  if !message.isObject then .ok []
  else do
    let role := message.member "role"
    let finish := response.member "stopReason"
    let metadata : Object := match response.member "usage" with
      | .object usage => [("usage", .object usage)]
      | _ => []
    let blocks ← (message.member "content").elements
    return (blocks.filterMap blockText?).map fun text =>
      { role := if role.isTruthy then role.display else "assistant"
        content := text
        modelId
        finishReason := if finish.isTruthy then some finish.display else none
        metadata }

/-- The text that a stream event carries. -/
def streamText (event : Value) : Option String :=
  let text := ((event.member "contentBlockDelta").member "delta").member "text"
  if text.isTruthy then some text.display else none

end Reply
end ModelGateway
