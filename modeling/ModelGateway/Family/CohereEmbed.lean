import ModelGateway.Adapter

/-!
# Cohere Embed: embeddings
-/
namespace ModelGateway.CohereEmbed

def embeddingRequest (text : Value) : Object :=
  [("texts", .list [text]), ("input_type", .text "search_document"), ("truncate", .text "END")]

/-- The first vector, from a plain list of vectors or from those under `float`. -/
def embedding (payload : Object) : Except Conversion (List Binary64) :=
  let embeddings := match Object.value payload "embeddings" with
    | .object byType => Object.value byType "float"
    | v => v
  match embeddings with
  | .list (.list first :: _) => first.mapM Value.toFloat
  | _ => .ok []

def adapter : Adapter :=
  { Adapter.bare "CohereEmbedIO" "cohere" with
    embeddingRequest? := some fun _ text => .ok (embeddingRequest text)
    embedding? := some (Body.decodeWith embedding) }

end ModelGateway.CohereEmbed
