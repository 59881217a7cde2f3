import ModelGateway.Capability
import ModelGateway.Conversion
import ModelGateway.Json.Reader
import ModelGateway.Text.Utf8
import ModelGateway.Value.Display

/-!
# Faults

An operation fails in one of three ways: with an error of the gateway itself, because a datum has
a shape that no conversion accepts, or because a collaborator failed. The kinds of gateway errors
and the wording of each are fixed here.
-/
namespace ModelGateway

/-- A failure of a collaborator: the name of its kind and its text, which may be empty. -/
structure Foreign where
  kind : String
  text : String
  deriving DecidableEq, Repr

/-- What is said of a collaborator's failure: its text, or its kind when there is none. -/
def Foreign.summary (f : Foreign) : String := if f.text = "" then f.kind else f.text

inductive ErrorKind where
  | general
  | configuration
  | unsupportedModel
  | unsupportedOperation
  | invalidParameter
  | invocation
  | malformedResponse
  | registration
  deriving DecidableEq, Repr

inductive NotJson where
  | syntaxFault (f : Json.Fault)
  | encodingFault (f : Utf8.Fault)
  /-- A value that is not text at all, named by its kind. -/
  | notText (kind : String)
  deriving DecidableEq, Repr

inductive Malformed where
  | notJson (why : NotJson)
  | notObject (kind : String)
  deriving DecidableEq, Repr

inductive InvalidParameter where
  /-- A role that has no place in a conversation, as it was given. -/
  | role (given : String)
  /-- A side of an image that is no positive integer, with its display. -/
  | imageSize (side quoted : String)
  | noTexts
  | settingsNotJson (why : Json.Fault)
  | settingsNotObject
  | noModel (key : String)
  deriving DecidableEq, Repr

inductive Registration where
  | blankName
  | otherProvider (adapterProvider provider : String)
  | unbacked (adapter : String) (missing : List Capability) (provider familyPrefix : String)
  deriving DecidableEq, Repr

inductive GatewayError where
  /-- The client library of the model service is missing. -/
  | noServiceClient
  | unsupportedModel (modelId : String) (reason : Option String)
  | unsupportedOperation (provider capability : String)
  | invalidParameter (why : InvalidParameter)
  /-- A failed call, with the failure behind it where there is one. -/
  | invocation (modelId text : String) (cause : Option Foreign)
  | malformedResponse (why : Malformed)
  | registration (why : Registration)
  /-- An error of a given kind whose text was given with it. -/
  | stated (kind : ErrorKind) (text : String)
  deriving DecidableEq, Repr

namespace Utf8.Fault

def reasonText : Utf8.Reason → String
  | .invalidStart => "invalid start byte"
  | .invalidContinuation => "invalid continuation byte"
  | .unexpectedEnd => "unexpected end of data"

def message (f : Utf8.Fault) : String :=
  if f.count ≤ 1 then
    let octet := String.ofList (Text.hexDigits 2 f.octet.toNat)
    s!"'utf-8' codec can't decode byte 0x{octet} in position {f.position}: {reasonText f.reason}"
  else
    let last := f.position + f.count - 1
    s!"'utf-8' codec can't decode bytes in position {f.position}-{last}: {reasonText f.reason}"

end Utf8.Fault

def Utf8.EncodeFault.message (f : Utf8.EncodeFault) : String :=
  if f.count ≤ 1 then
    let code := String.ofList (Text.hexDigits 4 (0xD800 + f.first))
    s!"'utf-8' codec can't encode character '\\u{code}' in position {f.position}: " ++
      "surrogates not allowed"
  else
    let last := f.position + f.count - 1
    s!"'utf-8' codec can't encode characters in position {f.position}-{last}: " ++
      "surrogates not allowed"

def NotJson.message : NotJson → String
  | .syntaxFault f => f.message
  | .encodingFault f => f.message
  | .notText kind => s!"the JSON object must be str, bytes or bytearray, not {kind}"

def Malformed.message : Malformed → String
  | .notJson why => s!"Response body is not valid JSON: {why.message}"
  | .notObject kind => s!"Expected a JSON object, got {kind}"

def InvalidParameter.message : InvalidParameter → String
  | .role given => s!"Unsupported chat role '{given}'"
  | .imageSize side quoted => s!"Image {side} must be a positive integer, got {quoted}"
  | .noTexts => "At least one text is required for embedding generation"
  | .settingsNotJson why => s!"--settings must be a JSON object: {why.message}"
  | .settingsNotObject => "--settings must be a JSON object"
  | .noModel key => s!"No model configured. Pass --model or set {key}."

def Registration.message : Registration → String
  | .blankName => "Routes need a provider and a family prefix"
  | .otherProvider adapterProvider provider =>
    s!"IO service for '{adapterProvider}' registered under provider '{provider}'"
  | .unbacked adapter missing provider familyPrefix =>
    let names := ", ".intercalate (missing.map Capability.name)
    s!"{adapter} does not implement {names} declared for '{provider}.{familyPrefix}'"

namespace GatewayError

def kind : GatewayError → ErrorKind
  | noServiceClient => .configuration
  | unsupportedModel .. => .unsupportedModel
  | unsupportedOperation .. => .unsupportedOperation
  | invalidParameter _ => .invalidParameter
  | invocation .. => .invocation
  | malformedResponse _ => .malformedResponse
  | registration _ => .registration
  | stated kind _ => kind

def message : GatewayError → String
  | noServiceClient => "boto3 is required for Bedrock invocation. Install boto3."
  | unsupportedModel modelId reason =>
    match reason with
    | some why => if why = "" then s!"Unsupported model '{modelId}'"
        else s!"Unsupported model '{modelId}': {why}"
    | none => s!"Unsupported model '{modelId}'"
  | unsupportedOperation provider capability =>
    s!"Provider '{provider}' does not support capability '{capability}'"
  | invalidParameter why => why.message
  | invocation modelId text _ => s!"Invocation of '{modelId}' failed: {text}"
  | malformedResponse why => why.message
  | registration why => why.message
  | stated _ text => text

/-- The error of a kind that arises from the given arguments: three kinds take the parts of their
message, the others take the message itself. -/
def ofArguments (kind : ErrorKind) (arguments : List Value) : Except Conversion GatewayError :=
  match kind, arguments with
  | .unsupportedModel, [modelId] => .ok (unsupportedModel modelId.display none)
  | .unsupportedModel, [modelId, reason] =>
    .ok (unsupportedModel modelId.display (if reason.isTruthy then some reason.display else none))
  | .unsupportedOperation, [provider, capability] =>
    .ok (unsupportedOperation provider.display capability.display)
  | .invocation, [modelId, text] => .ok (invocation modelId.display text.display none)
  | .unsupportedModel, _ | .unsupportedOperation, _ | .invocation, _ => .error .arguments
  | kind, [] => .ok (stated kind "")
  | kind, [text] => .ok (stated kind text.display)
  | kind, several => .ok (stated kind (Value.tuple several).quote)

end GatewayError

inductive Fault where
  | gateway (e : GatewayError)
  | conversion (c : Conversion)
  | foreign (f : Foreign)
  deriving DecidableEq, Repr

end ModelGateway
