import ModelGateway.ClientSet
import ModelGateway.Proofs.Client.Capability
import ModelGateway.Proofs.Options

/-!
# Which clients are built

A slot is filled with a client for the model that the options, or else the environment, name for it,
and left empty if they name none. All slots are filled or nothing is built: the first slot whose
model has no route for it decides the error. No invoker takes part.
-/
namespace ModelGateway

namespace Registry

variable {registry : Registry} {given : Value} {capability : Capability} {e : GatewayError}

theorem kind_of_resolve_error (h : registry.resolve given capability = .error e) :
    e.kind = .unsupportedModel ∨ e.kind = .unsupportedOperation := by
  unfold resolve at h
  cases hfind : registry.find given with
  | error why =>
    rw [hfind] at h
    rw [← Except.error.inj h]
    exact .inl (kind_of_find_error hfind)
  | ok route =>
    rw [hfind] at h
    change route.require capability = .error e at h
    cases hsupports : route.supports capability with
    | true =>
      rw [Client.require_of_supports hsupports] at h
      cases h
    | false =>
      rw [Client.require_of_not_supports hsupports] at h
      rw [← Except.error.inj h]
      exact .inr rfl

end Registry

/-- A place for a client. -/
inductive Slot where
  | text
  | chat
  | embeddings
  | image
  deriving DecidableEq

namespace Slot

def capability : Slot → Capability
  | text => .textGeneration
  | chat => .chat
  | embeddings => .embedding
  | image => .textToImage

/-- The key under which the model of a slot is named. -/
def key : Slot → String
  | text => "text_model"
  | chat => "chat_model"
  | embeddings => "embedding_model"
  | image => "image_model"

/-- The slots that are filled before a slot. -/
def before : Slot → List Slot
  | text => []
  | chat => [text]
  | embeddings => [text, chat]
  | image => [text, chat, embeddings]

end Slot

namespace ClientSet

def client (set : ClientSet) : (slot : Slot) → Option (Client slot.capability)
  | .text => set.text
  | .chat => set.chat
  | .embeddings => set.embeddings
  | .image => set.image

section
variable (options : Options) (env : Environment) (registry : Registry) (s : Slot)

/-- That a slot is empty because no model is named for it, or holds a client for the model that is
named, with the route that the registry has for it. -/
def Fits (strict logEvents : Bool) : Option (Client s.capability) → Prop
  | none => ∀ modelId, ¬options.Names env s.key modelId
  | some c => options.Names env s.key c.modelId ∧
      registry.resolve (.text c.modelId) s.capability = .ok c.route ∧
      c.strict = strict ∧ c.logEvents = logEvents

/-- What a slot is filled with. -/
def fill : Except GatewayError (Option (Client s.capability)) :=
  slot s.capability options env registry s.key

/-- That every model that is named for a slot has a route for it. -/
def Resolves : Prop :=
  ∀ modelId, options.Names env s.key modelId →
    ∃ route, registry.resolve (.text modelId) s.capability = .ok route

end

variable {options : Options} {env : Environment} {registry : Registry} {s : Slot}

theorem fill_of_resolves (h : Resolves options env registry s) :
    ∃ c, fill options env registry s = .ok c ∧
      Fits options env registry s (options.flag env "strict_decoding" false)
        (options.flag env "log_events" true) c := by
  unfold fill slot
  cases htext : options.text? env s.key with
  | none => exact ⟨none, rfl, Options.text?_eq_none_iff.mp htext⟩
  | some modelId =>
    have hnames := Options.text?_eq_some_iff.mp htext
    obtain ⟨route, hroute⟩ := h modelId hnames
    dsimp only
    rw [Client.bind, hroute]
    exact ⟨some ⟨modelId, route, _, _⟩, rfl, hnames, hroute, rfl, rfl⟩

theorem fill_of_error {modelId : String} {e : GatewayError}
    (hnames : options.Names env s.key modelId)
    (h : registry.resolve (.text modelId) s.capability = .error e) :
    fill options env registry s = .error e := by
  unfold fill slot
  rw [Options.text?_eq_some_iff.mpr hnames]
  dsimp only
  rw [Client.bind, h]
  rfl

theorem build_eq (options : Options) (env : Environment) (registry : Registry) :
    build options env registry = do
      let text ← fill options env registry .text
      let chat ← fill options env registry .chat
      let embeddings ← fill options env registry .embeddings
      let image ← fill options env registry .image
      return ⟨text, chat, embeddings, image⟩ := rfl

/-- The error of a slot is that of the whole, if those before it could be filled. -/
theorem build_of_error {e : GatewayError}
    (hbefore : ∀ earlier ∈ s.before, Resolves options env registry earlier)
    (h : fill options env registry s = .error e) :
    build options env registry = .error e := by
  have hfilled : ∀ earlier ∈ s.before, ∃ c, fill options env registry earlier = .ok c := by
    intro earlier hmem
    obtain ⟨c, hc, _⟩ := fill_of_resolves (hbefore earlier hmem)
    exact ⟨c, hc⟩
  -- Building stops at the first slot that cannot be filled, so each slot has its own way there.
  cases s with
  | text =>
    rw [build_eq, h]
    rfl
  | chat =>
    obtain ⟨text, htext⟩ := hfilled .text (by decide)
    rw [build_eq, htext, h]
    rfl
  | embeddings =>
    obtain ⟨text, htext⟩ := hfilled .text (by decide)
    obtain ⟨chat, hchat⟩ := hfilled .chat (by decide)
    rw [build_eq, htext, hchat, h]
    rfl
  | image =>
    obtain ⟨text, htext⟩ := hfilled .text (by decide)
    obtain ⟨chat, hchat⟩ := hfilled .chat (by decide)
    obtain ⟨embeddings, hembeddings⟩ := hfilled .embeddings (by decide)
    rw [build_eq, htext, hchat, hembeddings, h]
    rfl

/-- If every model that is named has a route for its slot, each slot holds a client for the model
that is named for it, with that route, or nothing where none is named, and all clients have the
same flags. Otherwise nothing is built, and the error is the look-up's for the first slot whose
model has no such route. -/
theorem build_fills_named_slots (options : Options) (env : Environment) (registry : Registry) :
    ((∀ s, Resolves options env registry s) →
      ∃ set strict logEvents, build options env registry = .ok set ∧
        options.Means env "strict_decoding" false strict ∧
        options.Means env "log_events" true logEvents ∧
        ∀ s, Fits options env registry s strict logEvents (set.client s)) ∧
    ∀ (s : Slot) (modelId : String) (e : GatewayError), options.Names env s.key modelId →
      registry.resolve (.text modelId) s.capability = .error e →
      (∀ earlier ∈ s.before, Resolves options env registry earlier) →
      build options env registry = .error e ∧
        (e.kind = .unsupportedModel ∨ e.kind = .unsupportedOperation) := by
  constructor
  · intro hall
    obtain ⟨text, htext, hfitsText⟩ := fill_of_resolves (hall .text)
    obtain ⟨chat, hchat, hfitsChat⟩ := fill_of_resolves (hall .chat)
    obtain ⟨embeddings, hembeddings, hfitsEmbeddings⟩ := fill_of_resolves (hall .embeddings)
    obtain ⟨image, himage, hfitsImage⟩ := fill_of_resolves (hall .image)
    refine ⟨⟨text, chat, embeddings, image⟩, _, _, ?_, options.flag_means env _ _,
      options.flag_means env _ _, ?_⟩
    · rw [build_eq, htext, hchat, hembeddings, himage]
      rfl
    · intro s
      cases s with
      | text => exact hfitsText
      | chat => exact hfitsChat
      | embeddings => exact hfitsEmbeddings
      | image => exact hfitsImage
  · intro s modelId e hnames hresolve hbefore
    exact ⟨build_of_error hbefore (fill_of_error hnames hresolve),
      Registry.kind_of_resolve_error hresolve⟩

end ClientSet
end ModelGateway
