import ModelGateway.Fault
import ModelGateway.Text.Case
import ModelGateway.Text.Blank

/-!
# Conversations

A message has a role, kept stripped and in lowercase, and a content. A turn of a conversation is
such a message or an object that describes one; conversations are read only.
-/
namespace ModelGateway

/-- The form in which roles are compared: without surrounding blanks, in lowercase. -/
def normalizeRole (role : Value) : String := Text.lower (Text.strip role.displayOrEmpty)

structure Message where
  role : String
  /-- A text in every usual conversation. -/
  content : Value
  deriving Repr

namespace Message

def make (role content : Value) : Message := ⟨normalizeRole role, content⟩

/-- The message that an object describes by its `role` and its `content`. -/
def ofObject (o : Object) : Message :=
  make (.text (Object.value o "role").displayOrEmpty)
    (.text (Object.value o "content").displayOrEmpty)

def isSystem (m : Message) : Bool := m.role == "system"

end Message

inductive Turn where
  | message (m : Message)
  | described (o : Object)
  deriving Repr

def Turn.toMessage : Turn → Message
  | message m => m
  | described o => Message.ofObject o

inductive Speaker where
  | user
  | assistant
  deriving DecidableEq, Repr

namespace Speaker

def name : Speaker → String
  | user => "user"
  | assistant => "assistant"

def ofName? (s : String) : Option Speaker :=
  if s = "user" then some user else if s = "assistant" then some assistant else none

/-- The speaker of a role; system messages and unknown roles have none. -/
def ofRole (role : Value) : Except GatewayError Speaker :=
  match ofName? (normalizeRole role) with
  | some speaker => .ok speaker
  | none => .error (.invalidParameter (.role role.display))

end Speaker

structure Utterance where
  speaker : Speaker
  content : Value
  deriving Repr

/-- A conversation with its system texts kept apart from what is spoken. -/
structure Transcript where
  system : List Value
  spoken : List Utterance
  deriving Repr

namespace Transcript

def empty : Transcript := ⟨[], []⟩

/-- The transcript of messages; the first message without a place decides the error. -/
def ofMessages : List Message → Except GatewayError Transcript
  | [] => .ok empty
  | m :: rest =>
    if m.isSystem then (ofMessages rest).map fun t => { t with system := m.content :: t.system }
    else do
      let speaker ← Speaker.ofRole (.text m.role)
      let t ← ofMessages rest
      return { t with spoken := ⟨speaker, m.content⟩ :: t.spoken }

def ofTurns (turns : List Turn) : Except GatewayError Transcript :=
  ofMessages (turns.map Turn.toMessage)

end Transcript

structure History where
  messages : List Message
  deriving Repr

namespace History

def ofTurns (turns : List Turn) : History := ⟨turns.map Turn.toMessage⟩

def add (h : History) (role content : Value) : History :=
  ⟨h.messages ++ [Message.make role content]⟩

def addSystem (h : History) (content : Value) : History := h.add (.text "system") content
def addUser (h : History) (content : Value) : History := h.add (.text "user") content
def addAssistant (h : History) (content : Value) : History := h.add (.text "assistant") content

def turns (h : History) : List Turn := h.messages.map .message

end History
end ModelGateway
