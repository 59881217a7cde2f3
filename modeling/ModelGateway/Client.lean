import ModelGateway.Event
import ModelGateway.Invoker
import ModelGateway.Registry

/-!
# Clients

A client binds a model to its route and serves one capability through an invoker. What an
operation does besides its result is written in a journal: the calls it makes and the events it
logs, in order.

An invoker's failure is wrapped and logged unless it is a gateway error already, and a body that
cannot be written fails in the same way without a call. Streams are lazy: opening one checks the
route and builds the request, and only pulling from it makes the call.
-/
namespace ModelGateway

structure Journal where
  calls : List Call
  events : List Event
  deriving Repr

def Journal.empty : Journal := ⟨[], []⟩

/-- An operation that may fail and writes in the journal either way. -/
abbrev Session := ExceptT Fault (StateM Journal)

namespace Session

/-- An outcome that leaves the journal alone. -/
def ofOutcome (outcome : Except Fault α) : Session α := ExceptT.mk (pure outcome)

/-- Writes a call down; the calls before it are returned. -/
def record (call : Call) : Session (List Call) :=
  ExceptT.mk fun j => (.ok j.calls, { j with calls := j.calls ++ [call] })

end Session

structure Client (capability : Capability) where
  modelId : String
  route : Route
  strict : Bool
  logEvents : Bool

namespace Client

/-- A client for a model that the registry has a route for. -/
def bind (capability : Capability) (registry : Registry) (modelId : String)
    (strict logEvents : Bool) : Except GatewayError (Client capability) :=
  (registry.resolve (.text modelId) capability).map fun route =>
    ⟨modelId, route, strict, logEvents⟩

variable {capability : Capability}

def log (c : Client capability) (name : String) (fields : Object) : Session Unit :=
  ExceptT.mk fun j =>
    let tagged := Object.putAll
      [("model_id", .text c.modelId), ("provider", .text c.route.provider)] fields
    (.ok (), if c.logEvents then { j with events := j.events ++ [⟨name, tagged⟩] } else j)

/-- Fails with an invoker's failure: gateway errors pass, others are logged and wrapped. -/
def fail (c : Client capability) (operation : String) (failure : Failure) : Session α :=
  match failure with
  | .gateway e => throw (.gateway e)
  | .foreign f => do
    c.log "bedrock_invoke_error"
      [("operation", .text operation), ("error", .text f.text), ("error_type", .text f.kind)]
    throw (.gateway (.invocation c.modelId f.summary (some f)))

def modelRequest (c : Client capability) (payload : Object) : ModelRequest where
  modelId := c.modelId
  accept := "*/*"
  contentType := "application/json"
  body := Object.encodeBody payload

def invoke (c : Client capability) (invoker : Invoker) (payload : Object) : Session Body := do
  if Object.canWrite payload then
    let request := c.modelRequest payload
    let before ← Session.record (.invoke request)
    match invoker.invoke before request with
    | .ok body => return body
    | .error failure => c.fail "invoke_model" failure
  else c.fail "invoke_model" .notWritable

/-- Logs how many candidates a completion stands for besides itself. -/
def logDiscarded (c : Client capability) (completion : Completion) : Session Unit :=
  let discarded := Object.value completion.metadata "discarded_candidates"
  if discarded.isTruthy then
    c.log "bedrock_candidates_discarded" [("discarded", discarded)]
  else return ()

def generate (c : Client .textGeneration) (invoker : Invoker) (prompt : Value)
    (settings : Settings) : Session (List Completion) := do
  let payload ← Session.ofOutcome (c.route.adapter.textRequest c.modelId prompt settings)
  let body ← c.invoke invoker payload
  let completions ← Session.ofOutcome (c.route.adapter.completions c.modelId body c.strict)
  completions.forM c.logDiscarded
  return completions

def complete (c : Client .chat) (invoker : Invoker) (turns : List Turn) (settings : Settings) :
    Session (List Reply) := do
  let request ← Session.ofOutcome (c.route.adapter.converseRequest c.modelId turns settings)
  let before ← Session.record (.converse request)
  match invoker.converse before request with
  | .ok response => Session.ofOutcome (Fault.ofConversion (Reply.ofResponse response c.modelId))
  | .error failure => c.fail "converse" failure

def embedOne (c : Client .embedding) (invoker : Invoker) (text : Value) :
    Session (List Binary64) := do
  let payload ← Session.ofOutcome (c.route.adapter.embeddingRequest c.modelId text)
  let body ← c.invoke invoker payload
  Session.ofOutcome (c.route.adapter.embedding body c.strict)

/-- The texts that a value gives: itself, or its items, of which there has to be one. -/
def embeddingTexts (texts : Value) : Except Fault (List Value) :=
  match texts with
  | .text s => .ok [.text s]
  | v =>
    if v.isTruthy then Fault.ofConversion v.iterate
    else .error (.gateway (.invalidParameter .noTexts))

/-- The vectors of texts, one call for each; the first failure ends the run. -/
def embed (c : Client .embedding) (invoker : Invoker) (texts : Value) :
    Session (List (List Binary64)) := do
  (← Session.ofOutcome (embeddingTexts texts)).mapM (c.embedOne invoker)

/-- The body of the request for a text, code point by code point. A request is made of a `String`, so it
is made twice with different characters in place of the halves, which are found where the bodies
differ. -/
def embeddingBody (c : Client .embedding) (text : LooseText) : Except Fault LooseText := do
  let one ← c.route.adapter.embeddingRequest c.modelId (.text (text.fill 'a'))
  let other ← c.route.adapter.embeddingRequest c.modelId (.text (text.fill 'b'))
  return .ofFillings text.halves (Object.bodyText one).toList (Object.bodyText other).toList

/-- The vector of a text in which halves of surrogate pairs may stand alone. A body that holds one has no
encoding, and nobody is called. -/
def embedLoose (c : Client .embedding) (invoker : Invoker) (text : LooseText) :
    Session (List Binary64) := do
  match Utf8.encodeLoose (← Session.ofOutcome (c.embeddingBody text)) with
  | .error f => c.fail "invoke_model" (.notEncodable f)
  | .ok _ => c.embedOne invoker (.text (text.fill 'a'))

/-- What embeddings are asked for: one text, or a list of them. -/
inductive EmbeddingInput where
  | one (text : LooseText)
  | several (texts : List LooseText)

def EmbeddingInput.texts : EmbeddingInput → Except Fault (List LooseText)
  | one text => .ok [text]
  | several [] => .error (.gateway (.invalidParameter .noTexts))
  | several texts => .ok texts

/-- The vectors of texts as they come from outside, as `embed` gives those of dynamic values. -/
def embedTexts (c : Client .embedding) (invoker : Invoker) (input : EmbeddingInput) :
    Session (List (List Binary64)) := do
  (← Session.ofOutcome input.texts).mapM (c.embedLoose invoker)

/-- Refuses a side of an image that is no positive integer. -/
def checkSide (side : String) : Value → Except Fault Unit
  | .int n => if 0 < n then .ok () else refuse (.int n)
  | v => refuse v
where
  refuse (v : Value) : Except Fault Unit :=
    .error (.gateway (.invalidParameter (.imageSize side v.quote)))

def generateImage (c : Client .textToImage) (invoker : Invoker) (description width height : Value)
    (settings : Settings) : Session ImageResult := do
  Session.ofOutcome (checkSide "width" width)
  Session.ofOutcome (checkSide "height" height)
  let payload ← Session.ofOutcome
    (c.route.adapter.imageRequest c.modelId description width height settings)
  let body ← c.invoke invoker payload
  let result ← Session.ofOutcome (c.route.adapter.image body c.strict)
  if !result.ok then
    c.log "bedrock_image_failed"
      [("status", .text result.status.name), ("finish_reason", result.finishReason)]
  return result

end Client

inductive StreamEnd where
  /-- As many fragments as were asked for came before the end. -/
  | more
  | finished
  deriving DecidableEq, Repr

/-- A stream that has been opened and not yet called for. -/
inductive OpenStream where
  | text (payload : Object)
  | chat (request : Object)

/-- A stream in the hands of its consumer: opened, or called for with a rest of its delivery. -/
inductive Stream where
  | opened (stream : OpenStream)
  | chunks (rest : Delivery Body)
  | events (rest : Delivery Value)

/-- How many items are still to come in a stream that has been called for. -/
def Stream.pending : Stream → Nat
  | opened _ => 0
  | chunks rest => rest.items.length
  | events rest => rest.items.length

/-- Reads on to the first item with a fragment, which comes with the items after it. Nothing is
left when the items run out. -/
def Delivery.advance (decode : α → Except Fault (Option String)) :
    List α → Except Fault (Option (String × List α))
  | [] => .ok none
  | item :: rest =>
    match decode item with
    | .error f => .error f
    | .ok none => advance decode rest
    | .ok (some fragment) => .ok (some (fragment, rest))

namespace Client

def openText (c : Client .textGeneration) (prompt : Value) (settings : Settings) :
    Except Fault OpenStream := do
  let route ← Fault.ofGateway (c.route.require .textStreaming)
  return .text (← route.adapter.textRequest c.modelId prompt settings)

def openChat (c : Client .chat) (turns : List Turn) (settings : Settings) :
    Except Fault OpenStream := do
  let route ← Fault.ofGateway (c.route.require .chatStreaming)
  return .chat (← route.adapter.converseRequest c.modelId turns settings)

variable {capability : Capability}

def textFragment (c : Client capability) (chunk : Body) : Except Fault (Option String) := do
  c.route.adapter.fragment (← chunk.object c.strict)

def chatFragment (event : Value) : Except Fault (Option String) := .ok (Reply.streamText event)

/-- The next fragment of a delivery with the stream after it; none at its end, unless it ends in a
failure. -/
def nextItem (c : Client capability) (operation : String)
    (decode : α → Except Fault (Option String)) (wrap : Delivery α → Stream) (d : Delivery α) :
    Session (Option (String × Stream)) := do
  match ← Session.ofOutcome (Delivery.advance decode d.items) with
  | some (fragment, rest) => return some (fragment, wrap ⟨rest, d.failure⟩)
  | none =>
    match d.failure with
    | some failure => c.fail operation failure
    | none => return none

def nextChunk (c : Client capability) : Delivery Body → Session (Option (String × Stream)) :=
  c.nextItem "invoke_model_stream" c.textFragment .chunks

def nextEvent (c : Client capability) : Delivery Value → Session (Option (String × Stream)) :=
  c.nextItem "converse_stream" chatFragment .events

/-- One pull from a stream: the next fragment with the stream after it, or none at the end. The
first pull makes the call. -/
def next (c : Client capability) (invoker : Invoker) : Stream → Session (Option (String × Stream))
  | .opened (.text payload) => do
    if Object.canWrite payload then
      let request := c.modelRequest payload
      c.nextChunk (invoker.invokeStream (← Session.record (.invokeStream request)) request)
    else c.fail "invoke_model_stream" .notWritable
  | .opened (.chat request) => do
    c.nextEvent (invoker.converseStream (← Session.record (.converseStream request)) request)
  | .chunks rest => c.nextChunk rest
  | .events rest => c.nextEvent rest

/-- Pulls once and, after a fragment, goes on with the rest of the stream. The fragments before an
error are kept beside it. -/
def proceed (c : Client capability) (invoker : Invoker) (stream : Stream)
    (goOn : Stream → StateM Journal (List String × Except Fault StreamEnd)) :
    StateM Journal (List String × Except Fault StreamEnd) := do
  match ← (c.next invoker stream).run with
  | .error f => return ([], .error f)
  | .ok none => return ([], .ok .finished)
  | .ok (some (fragment, rest)) =>
    let (fragments, ending) ← goOn rest
    return (fragment :: fragments, ending)

def pullUpTo (c : Client capability) (invoker : Invoker) :
    Nat → Stream → StateM Journal (List String × Except Fault StreamEnd)
  | 0, _ => return ([], .ok .more)
  | wanted + 1, stream => c.proceed invoker stream (c.pullUpTo invoker wanted)

/-- Pulls all fragments: after the first there are no more of them than items. -/
def pullAll (c : Client capability) (invoker : Invoker) (stream : OpenStream) :
    StateM Journal (List String × Except Fault StreamEnd) :=
  c.proceed invoker (.opened stream) fun rest => c.pullUpTo invoker (rest.pending + 1) rest

/-- Pulls at most `limit` fragments, or all of them. -/
def pull (c : Client capability) (invoker : Invoker) (stream : OpenStream) (limit : Option Nat) :
    StateM Journal (List String × Except Fault StreamEnd) :=
  match limit with
  | some wanted => c.pullUpTo invoker wanted (.opened stream)
  | none => c.pullAll invoker stream

end Client
end ModelGateway
