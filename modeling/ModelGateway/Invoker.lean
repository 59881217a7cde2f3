import ModelGateway.Fault
import ModelGateway.Body

/-!
# Invokers

An invoker carries requests to the model service. It is a function of the calls made so far and
of the request, so whatever a service answers or fails with, in whatever order, is some invoker.
A stream is a list of items with the failure that ends it, if one does.
-/
namespace ModelGateway

structure ModelRequest where
  modelId : String
  accept : String
  contentType : String
  body : Utf8.Octets
  deriving DecidableEq, Repr

inductive Call where
  | invoke (r : ModelRequest)
  | invokeStream (r : ModelRequest)
  | converse (request : Object)
  | converseStream (request : Object)
  deriving Repr

/-- What a service fails with: an error of the gateway's kinds, or any other failure. -/
inductive Failure where
  | gateway (e : GatewayError)
  | foreign (f : Foreign)
  deriving DecidableEq, Repr

def Failure.toFault : Failure → Fault
  | gateway e => .gateway e
  | foreign f => .foreign f

/-- The failure of a call whose body JSON has no form for. -/
def Failure.notWritable : Failure :=
  .foreign ⟨"TypeError", "Object of type ChatMessage is not JSON serializable"⟩

/-- The failure of a call whose body UTF-8 has no encoding for. -/
def Failure.notEncodable (f : Utf8.EncodeFault) : Failure :=
  .foreign ⟨"UnicodeEncodeError", f.message⟩

/-- The items that a stream delivers, and the failure after them. -/
structure Delivery (α : Type) where
  items : List α
  failure : Option Failure
  deriving Repr

namespace Delivery

def failed (f : Failure) : Delivery α := ⟨[], some f⟩

def cons (item : α) (d : Delivery α) : Delivery α := ⟨item :: d.items, d.failure⟩

end Delivery

/-- Answers to calls, given the calls before. -/
structure Invoker where
  invoke : List Call → ModelRequest → Except Failure Body
  invokeStream : List Call → ModelRequest → Delivery Body
  converse : List Call → Object → Except Failure Value
  converseStream : List Call → Object → Delivery Value

end ModelGateway
