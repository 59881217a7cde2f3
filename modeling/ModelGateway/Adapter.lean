import ModelGateway.Body
import ModelGateway.Converse
import ModelGateway.Image

/-!
# Adapters

An adapter speaks the formats of one family of models. It encodes requests and decodes responses,
and it has only the operations that its models support; a capability is implemented when every
operation behind it is there, and an operation that is missing is refused with the capability it
belongs to.
-/
namespace ModelGateway

namespace Text

def occursIn (part : List Char) : List Char → Bool
  | [] => part.isEmpty
  | c :: rest => part.isPrefixOf (c :: rest) || occursIn part rest

/-- Whether a text holds a part, which is how models of one family are told apart. -/
def holds (s part : String) : Bool := occursIn part.toList s.toList

end Text

structure Completion where
  text : String
  modelId : String
  finishReason : Value
  metadata : Object
  deriving Repr

structure Adapter where
  name : String
  provider : String
  /-- From a model id, a prompt and settings. -/
  textRequest? : Option (String → Value → Settings → Except Fault Object)
  /-- From a model id, a body, and whether the body has to hold an object. -/
  completions? : Option (String → Body → Bool → Except Fault (List Completion))
  /-- The fragment of text in one stream chunk. -/
  fragment? : Option (Object → Except Fault (Option String))
  /-- From a model id, a conversation and settings. -/
  converseRequest? : Option (String → List Turn → Settings → Except Fault Object)
  /-- From a model id and a text. -/
  embeddingRequest? : Option (String → Value → Except Fault Object)
  embedding? : Option (Body → Bool → Except Fault (List Binary64))
  /-- From a model id, a description, a width, a height and settings. -/
  imageRequest? : Option (String → Value → Value → Value → Settings → Except Fault Object)
  image? : Option (Body → Bool → Except Fault ImageResult)

namespace Adapter

/-- An adapter without any operation. -/
def bare (name provider : String) : Adapter :=
  { name, provider
    textRequest? := none
    completions? := none
    fragment? := none
    converseRequest? := none
    embeddingRequest? := none
    embedding? := none
    imageRequest? := none
    image? := none }

/-- Whether every operation behind a capability is there. -/
def implements (a : Adapter) : Capability → Bool
  | .textGeneration => a.textRequest?.isSome && a.completions?.isSome
  | .textStreaming => a.textRequest?.isSome && a.fragment?.isSome
  | .chat => a.converseRequest?.isSome
  | .chatStreaming => a.converseRequest?.isSome
  | .embedding => a.embeddingRequest?.isSome && a.embedding?.isSome
  | .textToImage => a.imageRequest?.isSome && a.image?.isSome

/-- An operation of the adapter, or the refusal of the capability that it belongs to. -/
def offer (a : Adapter) (capability : Capability) (operation : Option α) : Except Fault α :=
  match operation with
  | some f => .ok f
  | none => .error (.gateway (.unsupportedOperation a.provider capability.name))

def textRequest (a : Adapter) (modelId : String) (prompt : Value) (settings : Settings) :
    Except Fault Object := do
  (← a.offer .textGeneration a.textRequest?) modelId prompt settings

def completions (a : Adapter) (modelId : String) (body : Body) (strict : Bool) :
    Except Fault (List Completion) := do
  (← a.offer .textGeneration a.completions?) modelId body strict

def fragment (a : Adapter) (chunk : Object) : Except Fault (Option String) := do
  (← a.offer .textStreaming a.fragment?) chunk

def converseRequest (a : Adapter) (modelId : String) (turns : List Turn) (settings : Settings) :
    Except Fault Object := do
  (← a.offer .chat a.converseRequest?) modelId turns settings

def embeddingRequest (a : Adapter) (modelId : String) (text : Value) : Except Fault Object := do
  (← a.offer .embedding a.embeddingRequest?) modelId text

def embedding (a : Adapter) (body : Body) (strict : Bool) : Except Fault (List Binary64) := do
  (← a.offer .embedding a.embedding?) body strict

def imageRequest (a : Adapter) (modelId : String) (description width height : Value)
    (settings : Settings) : Except Fault Object := do
  (← a.offer .textToImage a.imageRequest?) modelId description width height settings

def image (a : Adapter) (body : Body) (strict : Bool) : Except Fault ImageResult := do
  (← a.offer .textToImage a.image?) body strict

end Adapter

/-- An outcome whose only failures are conversions. -/
def Fault.ofConversion (outcome : Except Conversion α) : Except Fault α :=
  outcome.mapError .conversion

/-- An outcome whose only failures are errors of the gateway. -/
def Fault.ofGateway (outcome : Except GatewayError α) : Except Fault α :=
  outcome.mapError .gateway

def Body.decodeWith (f : Object → Except Conversion α) (body : Body) (strict : Bool) :
    Except Fault α := do
  Fault.ofConversion (f (← body.object strict))

/-- The display of a value that counts as present. -/
def Value.fragment (v : Value) : Option String := if v.isTruthy then some v.display else none

end ModelGateway
