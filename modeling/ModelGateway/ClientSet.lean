import ModelGateway.Client

/-!
# The clients of the configured models
-/
namespace ModelGateway

structure ClientSet where
  text : Option (Client .textGeneration)
  chat : Option (Client .chat)
  embeddings : Option (Client .embedding)
  image : Option (Client .textToImage)

namespace ClientSet

/-- The client for the model that an option names, if it names one. -/
def slot (capability : Capability) (options : Options) (env : Environment) (registry : Registry)
    (key : String) : Except GatewayError (Option (Client capability)) :=
  match options.text? env key with
  | none => .ok none
  | some modelId =>
    some <$> Client.bind capability registry modelId
      (options.flag env "strict_decoding" false) (options.flag env "log_events" true)

/-- The clients that options ask for; the first model without a fitting route decides the error. -/
def build (options : Options) (env : Environment) (registry : Registry) :
    Except GatewayError ClientSet := do
  return { text := ← slot .textGeneration options env registry "text_model"
           chat := ← slot .chat options env registry "chat_model"
           embeddings := ← slot .embedding options env registry "embedding_model"
           image := ← slot .textToImage options env registry "image_model" }

end ClientSet
end ModelGateway
