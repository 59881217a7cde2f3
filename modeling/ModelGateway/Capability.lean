/-!
# Capabilities

What a model can be asked to do. Sets of capabilities are listed in the order of their names.
-/
namespace ModelGateway

inductive Capability where
  | chat
  | chatStreaming
  | embedding
  | textGeneration
  | textStreaming
  | textToImage
  deriving DecidableEq, Repr

namespace Capability

/-- All capabilities, in the order of their names. -/
def all : List Capability :=
  [chat, chatStreaming, embedding, textGeneration, textStreaming, textToImage]

def name : Capability → String
  | chat => "chat"
  | chatStreaming => "chat_streaming"
  | embedding => "embedding"
  | textGeneration => "text_generation"
  | textStreaming => "text_streaming"
  | textToImage => "text_to_image"

def ofName? (s : String) : Option Capability := all.find? fun c => c.name == s

/-- The set of the listed capabilities: each once, in the order of the names. -/
def setOf (capabilities : List Capability) : List Capability :=
  all.filter fun c => capabilities.contains c

theorem mem_all (c : Capability) : c ∈ all := by cases c <;> decide

theorem mem_setOf {c : Capability} {capabilities : List Capability} :
    c ∈ setOf capabilities ↔ c ∈ capabilities := by
  simp [setOf, mem_all]

end Capability
end ModelGateway
