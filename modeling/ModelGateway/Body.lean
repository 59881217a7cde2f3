import ModelGateway.Fault
import ModelGateway.Json.Writer

/-!
# Bodies of requests and responses

A request body is the UTF-8 text of a JSON object. A response body arrives as octets, as text or
as a value that is decoded already. Decoding gives an object or a reason; strict callers see the
reason, tolerant ones get an empty object.
-/
namespace ModelGateway

inductive Body where
  | octets (octets : Utf8.Octets)
  | value (v : Value)
  deriving Repr

namespace Body

/-- The body that a buffer holds: its octets, as they are when it is decoded. -/
def ofBuffer (buffer : ByteArray) : Body := octets buffer.data.toList

/-- The object that a text holds. The empty text holds nothing. -/
def decodeText (s : String) : Except Malformed Object :=
  if s = "" then .error (.notObject Value.null.kindName)
  else match Json.parse s with
    | .error f => .error (.notJson (.syntaxFault f))
    | .ok (.object o) => .ok o
    | .ok v => .error (.notObject v.kindName)

def decode : Body → Except Malformed Object
  | octets bytes =>
    match Utf8.decode bytes with
    | .error f => .error (.notJson (.encodingFault f))
    | .ok s => decodeText s
  | value (.object o) => .ok o
  | value (.text s) => decodeText s
  | value v =>
    if v.isTruthy then .error (.notJson (.notText v.kindName))
    else .error (.notObject Value.null.kindName)

/-- The object that a body holds; without strictness a body that holds none counts as empty. -/
def object (body : Body) (strict : Bool) : Except Fault Object :=
  match body.decode with
  | .ok o => .ok o
  | .error why => if strict then .error (.gateway (.malformedResponse why)) else .ok []

/-- Whether a body counts as present: empty octets and empty values do not. -/
def isTruthy : Body → Bool
  | octets bytes => !bytes.isEmpty
  | value v => v.isTruthy

end Body

def Object.canWrite (payload : Object) : Bool := Json.canWrite (.object payload)

def Object.bodyText (payload : Object) : String := Json.render .line (.object payload)

def Object.encodeBody (payload : Object) : Utf8.Octets := Utf8.encode (Object.bodyText payload)

end ModelGateway
