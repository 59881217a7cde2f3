import ModelGateway.Invoker
import ModelGateway.Options

/-!
# The model service

The service's own client answers in envelopes: a stream's items are events of which only some carry
a chunk. An invoker unwraps them and leaves everything else as it is.
-/
namespace ModelGateway

/-- How to reach the service; blank parts are left to the service's client. -/
structure Connection where
  profile : Option String
  region : Option String
  endpoint : Option String
  deriving DecidableEq, Repr

namespace Connection

def nonEmpty? (s : Option String) : Option String := s.filter (· ≠ "")

def make (profile region endpoint : Option String) : Connection :=
  ⟨nonEmpty? profile, nonEmpty? region, nonEmpty? endpoint⟩

def ofOptions (options : Options) (env : Environment) : Connection :=
  make (options.text? env "profile_name") (options.text? env "region")
    (options.text? env "endpoint_url")

end Connection

inductive StreamEvent where
  | chunk (bytes : Body)
  | other (v : Value)
  deriving Repr

/-- The chunk that an event carries: one that counts as present. A chunk in an unexpected shape is
a failure of the service's client. -/
def StreamEvent.chunk? : StreamEvent → Except Failure (Option Body)
  | chunk bytes => .ok (if bytes.isTruthy then some bytes else none)
  | other v =>
    match v.member "chunk" with
    | .object o =>
      let bytes := Object.value o "bytes"
      .ok (if bytes.isTruthy then some (.value bytes) else none)
    | c =>
      if c.isTruthy then
        .error (.foreign ⟨"AttributeError", s!"'{c.kindName}' object has no attribute 'get'"⟩)
      else .ok none

/-- The service's client: answers to calls, given the calls before. A call may fail at once, and a
stream that was answered may fail later. -/
structure Service where
  invoke : List Call → ModelRequest → Except Failure Body
  invokeStream : List Call → ModelRequest → Except Failure (Delivery StreamEvent)
  converse : List Call → Object → Except Failure Value
  converseStream : List Call → Object → Except Failure (Delivery Value)

namespace Service

def chunks (failure : Option Failure) : List StreamEvent → Delivery Body
  | [] => ⟨[], failure⟩
  | event :: rest =>
    match event.chunk? with
    | .ok none => chunks failure rest
    | .ok (some body) => (chunks failure rest).cons body
    | .error f => .failed f

/-- The delivery that an answer gives, if there is an answer. -/
def deliver (f : Delivery α → Delivery β) : Except Failure (Delivery α) → Delivery β
  | .ok d => f d
  | .error failure => .failed failure

def invoker (s : Service) : Invoker where
  invoke := s.invoke
  invokeStream before request :=
    deliver (fun d => chunks d.failure d.items) (s.invokeStream before request)
  converse := s.converse
  converseStream before request := deliver id (s.converseStream before request)

end Service
end ModelGateway
