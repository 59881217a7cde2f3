import ModelGateway.Family.Claude
import ModelGateway.Family.CohereEmbed
import ModelGateway.Family.CommandR
import ModelGateway.Family.Jamba
import ModelGateway.Family.Jurassic
import ModelGateway.Family.Llama
import ModelGateway.Family.Mistral
import ModelGateway.Family.StableDiffusion
import ModelGateway.Family.Titan
import ModelGateway.ModelId

/-!
# The registry of model routes

A route binds the models of a provider whose family starts with a prefix to an adapter and the
capabilities it is to serve. The registry keeps a bucket of routes for each provider, with longer
prefixes first; a look-up takes the first route of the bucket that fits, so the longest prefix wins.
-/
namespace ModelGateway

structure Route where
  provider : String
  familyPrefix : String
  adapter : Adapter
  /-- Each capability once, in the order of the names. -/
  capabilities : List Capability
  /-- The model id that the route was found for. -/
  modelId : Option ModelId

namespace Route

def make (provider familyPrefix : String) (adapter : Adapter) (capabilities : List Capability) :
    Route := ⟨provider, familyPrefix, adapter, Capability.setOf capabilities, none⟩

def supports (r : Route) (capability : Capability) : Bool := r.capabilities.contains capability

/-- The route itself, if it declares a capability. -/
def require (r : Route) (capability : Capability) : Except GatewayError Route :=
  if r.supports capability then .ok r
  else .error (.unsupportedOperation r.provider capability.name)

/-- The declared capabilities that the adapter does not implement. -/
def unbacked (r : Route) : List Capability :=
  r.capabilities.filter fun c => !r.adapter.implements c

def key (r : Route) : String × String := (r.provider, r.familyPrefix)

def serves (r : Route) (family : String) : Bool := r.familyPrefix.toList.isPrefixOf family.toList

end Route

structure Registry where
  /-- Each provider with its routes, in the order in which the providers came. -/
  buckets : List (String × List Route)

abbrev Registering := ExceptT GatewayError (StateM Registry)

namespace Registry

def empty : Registry := ⟨[]⟩

def bucket (registry : Registry) (provider : String) : List Route :=
  (registry.buckets.lookup provider).getD []

/-- The routes with `r` ahead of the first whose prefix is no longer. -/
def place (r : Route) : List Route → List Route
  | [] => [r]
  | s :: rest =>
    if s.familyPrefix.length ≤ r.familyPrefix.length then r :: s :: rest else s :: place r rest

/-- The routes with longer prefixes first; prefixes of one length keep their order. -/
def byLength (routes : List Route) : List Route := routes.foldr place []

/-- Gives a provider a bucket: in its place if it has one, otherwise at the end. -/
def setBucket (provider : String) (routes : List Route) :
    List (String × List Route) → List (String × List Route)
  | [] => [(provider, routes)]
  | b :: rest => if b.1 = provider then (provider, routes) :: rest
    else b :: setBucket provider routes rest

/-- The route as it is listed, or why it is refused. -/
def validate (r : Route) : Except Registration Route :=
  let provider := Text.lower (Text.strip r.provider)
  let familyPrefix := Text.lower (Text.strip r.familyPrefix)
  if provider = "" ∨ familyPrefix = "" then .error .blankName
  else if r.adapter.provider ≠ provider then .error (.otherProvider r.adapter.provider provider)
  else if r.unbacked ≠ [] then
    .error (.unbacked r.adapter.name r.unbacked provider familyPrefix)
  else .ok { r with provider, familyPrefix }

/-- Lists a validated route, in place of the one with its provider and prefix. -/
def insert (registry : Registry) (r : Route) : Registry :=
  let others := (registry.bucket r.provider).filter fun s => s.familyPrefix != r.familyPrefix
  ⟨setBucket r.provider (byLength (others ++ [r])) registry.buckets⟩

/-- Registers a route and returns it as it is listed. -/
def register (r : Route) : Registering Route :=
  match validate r with
  | .ok listed => do
    modify fun registry => registry.insert listed
    return listed
  | .error why => throw (.registration why)

/-- Registers routes in order; the first refusal ends it. -/
def registerAll : List Route → Registering Unit
  | [] => return ()
  | r :: rest => do
    let _ ← register r
    registerAll rest

def providers (registry : Registry) : List String :=
  (registry.buckets.map Prod.fst).mergeSort fun p q => !decide (q < p)

def routes (registry : Registry) : List Route := registry.providers.flatMap registry.bucket

def lookup (registry : Registry) (id : ModelId) : Except GatewayError Route :=
  match registry.bucket id.provider with
  | [] => .error (.unsupportedModel id.raw (some s!"unknown provider '{id.provider}'"))
  | bucket =>
    match bucket.find? fun r => r.serves id.family with
    | some r => .ok { r with modelId := some id }
    | none => .error (.unsupportedModel id.raw
        (some s!"unknown {id.provider} model family '{id.family}'"))

/-- The route for the model id that a value displays. -/
def find (registry : Registry) (given : Value) : Except GatewayError Route := do
  registry.lookup (← ModelId.ofValue given)

/-- The route for a model, if it declares a capability. -/
def resolve (registry : Registry) (given : Value) (capability : Capability) :
    Except GatewayError Route := do
  (← registry.find given).require capability

end Registry

def textAndChat : List Capability := [.textGeneration, .textStreaming, .chat, .chatStreaming]

def standardRoutes : List Route :=
  [.make "amazon" "titan-embed" Titan.adapter [.embedding],
   .make "amazon" "titan-" Titan.adapter textAndChat,
   .make "anthropic" "claude" Claude.adapter textAndChat,
   .make "cohere" "command-r" CommandR.adapter textAndChat,
   .make "cohere" "embed-" CohereEmbed.adapter [.embedding],
   .make "meta" "llama" Llama.adapter textAndChat,
   .make "mistral" "mistral" Mistral.adapter textAndChat,
   .make "mistral" "mixtral" Mistral.adapter textAndChat,
   .make "ai21" "jamba" Jamba.adapter textAndChat,
   .make "ai21" "j2-" Jurassic.adapter [.textGeneration],
   .make "stability" "stable-diffusion" StableDiffusion.adapter [.textToImage]]

namespace Registry

/-- The registry of the standard routes, none of which is refused. -/
def standard : Registry := standardRoutes.foldl insert empty

theorem registerAll_standardRoutes :
    (registerAll standardRoutes).run empty = (.ok (), standard) := Eq.refl _

end Registry

end ModelGateway
