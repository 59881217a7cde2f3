import ModelGateway.Proofs.Chat.Format
import ModelGateway.Proofs.Outcome

/-!
# Which faults come from adapters

What an adapter cannot encode or decode it refuses for one of three reasons: a role has no place, a
response has the wrong shape, or a conversion fails. An operation that it does not have is refused
with the capability behind it. None of these says that a call failed; that is said by clients only.
-/
namespace ModelGateway

/-- That a fault does not say that a call failed. -/
def Fault.IsOwn : Fault → Prop
  | .gateway e => e.kind ≠ .invocation
  | _ => True

/-- That a fault is a parameter that is not valid, a response of the wrong shape or a failed
conversion. -/
def Fault.IsLocal : Fault → Prop
  | .gateway e => e.kind = .invalidParameter ∨ e.kind = .malformedResponse
  | .conversion _ => True
  | .foreign _ => False

theorem Fault.IsLocal.own {f : Fault} (h : f.IsLocal) : f.IsOwn := by
  cases f with
  | gateway e =>
    intro hkind
    rw [IsLocal, hkind] at h
    simp at h
  | conversion c => trivial
  | foreign f => trivial

theorem Fault.ofConversion_local {α : Type} (outcome : Except Conversion α) :
    FailsOnly IsLocal (ofConversion outcome) :=
  FailsOnly.mapError (p := fun _ => True) (fun _ _ => trivial) fun _ _ => trivial

theorem Fault.ofConversion_own {α : Type} (outcome : Except Conversion α) :
    FailsOnly IsOwn (ofConversion outcome) :=
  (ofConversion_local outcome).mono fun _ => IsLocal.own

/-! ## Conversations -/

def GatewayError.IsInvalidParameter (e : GatewayError) : Prop := e.kind = .invalidParameter

theorem Fault.ofGateway_local {α : Type} {outcome : Except GatewayError α}
    (h : FailsOnly GatewayError.IsInvalidParameter outcome) :
    FailsOnly IsLocal (ofGateway outcome) :=
  h.mapError fun _ he => .inl he

theorem Speaker.ofRole_invalid (role : Value) :
    FailsOnly GatewayError.IsInvalidParameter (ofRole role) := by
  unfold ofRole
  split
  · exact .ok _
  · exact .error rfl

theorem Transcript.ofMessages_invalid (messages : List Message) :
    FailsOnly GatewayError.IsInvalidParameter (ofMessages messages) := by
  induction messages with
  | nil => exact .ok _
  | cons m rest ih =>
    rw [ofMessages]
    split
    · exact ih.map _
    · exact (Speaker.ofRole_invalid _).bind fun _ => ih.bind fun _ => .ok _

namespace CommandR

theorem utterances_invalid (messages : List Message) :
    FailsOnly GatewayError.IsInvalidParameter (utterances messages) := by
  induction messages with
  | nil => exact .ok _
  | cons m rest ih => exact (Speaker.ofRole_invalid _).bind fun _ => ih.bind fun _ => .ok _

theorem Exchange.ofTurns_invalid (turns : List Turn) :
    FailsOnly GatewayError.IsInvalidParameter (ofTurns turns) := by
  unfold ofTurns
  dsimp only
  split
  · exact .ok _
  · refine (Speaker.ofRole_invalid _).bind fun speaker => ?_
    cases speaker with
    | user => exact (utterances_invalid _).bind fun _ => .ok _
    | assistant => exact (utterances_invalid _).bind fun _ => .ok _

end CommandR

theorem ChatFormat.converseRequest_local (f : ChatFormat) (modelId : String) (turns : List Turn)
    (settings : Settings) :
    FailsOnly Fault.IsLocal (f.adapter.converseRequest modelId turns settings) := by
  rw [converseRequest_eq]
  refine (Fault.ofConversion_local _).bind fun record => ?_
  have hextra : FailsOnly Fault.IsLocal (f.additional turns record) := by
    cases f with
    | commandR =>
      exact (Fault.ofGateway_local (CommandR.Exchange.ofTurns_invalid turns)).bind fun _ =>
        Fault.ofConversion_local _
    | _ => exact .ok _
  refine hextra.bind fun extra => (Fault.ofConversion_local _).bind fun inference => ?_
  exact (Fault.ofGateway_local ((Transcript.ofMessages_invalid _).map _)).bind fun _ => .ok _

/-! ## The adapters -/

theorem Body.object_local (body : Body) (strict : Bool) :
    FailsOnly Fault.IsLocal (body.object strict) := by
  unfold object
  split
  · exact .ok _
  · split
    · exact .error (.inr rfl)
    · exact .ok _

theorem Body.decodeWith_local {α : Type} (f : Object → Except Conversion α) (body : Body)
    (strict : Bool) : FailsOnly Fault.IsLocal (body.decodeWith f strict) :=
  (body.object_local strict).bind fun _ => Fault.ofConversion_local _

/-- That the operations which an adapter has fail only with faults of which something is true. -/
structure Adapter.FailsOnly (p : Fault → Prop) (a : Adapter) : Prop where
  textRequest : ∀ f ∈ a.textRequest?, ∀ modelId prompt settings,
    ModelGateway.FailsOnly p (f modelId prompt settings)
  completions : ∀ f ∈ a.completions?, ∀ modelId body strict,
    ModelGateway.FailsOnly p (f modelId body strict)
  fragment : ∀ f ∈ a.fragment?, ∀ chunk, ModelGateway.FailsOnly p (f chunk)
  converseRequest : ∀ f ∈ a.converseRequest?, ∀ modelId turns settings,
    ModelGateway.FailsOnly p (f modelId turns settings)
  embeddingRequest : ∀ f ∈ a.embeddingRequest?, ∀ modelId text,
    ModelGateway.FailsOnly p (f modelId text)
  embedding : ∀ f ∈ a.embedding?, ∀ body strict, ModelGateway.FailsOnly p (f body strict)
  imageRequest : ∀ f ∈ a.imageRequest?, ∀ modelId description width height settings,
    ModelGateway.FailsOnly p (f modelId description width height settings)
  image : ∀ f ∈ a.image?, ∀ body strict, ModelGateway.FailsOnly p (f body strict)

theorem Adapter.FailsOnly.mono {p q : Fault → Prop} {a : Adapter} (h : a.FailsOnly p)
    (hp : ∀ f, p f → q f) : a.FailsOnly q where
  textRequest g hg _ _ _ := (h.textRequest g hg _ _ _).mono hp
  completions g hg _ _ _ := (h.completions g hg _ _ _).mono hp
  fragment g hg _ := (h.fragment g hg _).mono hp
  converseRequest g hg _ _ _ := (h.converseRequest g hg _ _ _).mono hp
  embeddingRequest g hg _ _ := (h.embeddingRequest g hg _ _).mono hp
  embedding g hg _ _ := (h.embedding g hg _ _).mono hp
  imageRequest g hg _ _ _ _ _ := (h.imageRequest g hg _ _ _ _ _).mono hp
  image g hg _ _ := (h.image g hg _ _).mono hp

theorem ChatFormat.failsLocal (f : ChatFormat) : f.adapter.FailsOnly Fault.IsLocal where
  textRequest := by
    cases f <;> (rintro _ ⟨⟩ modelId prompt settings; exact Fault.ofConversion_local _)
  completions := by
    cases f <;> (rintro _ ⟨⟩ modelId body strict; exact Body.decodeWith_local _ _ _)
  fragment := by
    cases f <;> rintro _ ⟨⟩ chunk <;> exact .ok _
  converseRequest := by
    have h := f.converseRequest_local
    cases f <;> rintro _ ⟨⟩ <;> exact h
  embeddingRequest := by
    cases f <;> rintro _ ⟨⟩ modelId text
    exact .ok _
  embedding := by
    cases f <;> rintro _ ⟨⟩ body strict
    exact Body.decodeWith_local _ _ _
  imageRequest := by cases f <;> rintro _ ⟨⟩
  image := by cases f <;> rintro _ ⟨⟩

theorem Jurassic.failsLocal : adapter.FailsOnly Fault.IsLocal where
  textRequest := by rintro _ ⟨⟩ modelId prompt settings; exact Fault.ofConversion_local _
  completions := by rintro _ ⟨⟩ modelId body strict; exact Body.decodeWith_local _ _ _
  fragment := nofun
  converseRequest := nofun
  embeddingRequest := nofun
  embedding := nofun
  imageRequest := nofun
  image := nofun

theorem CohereEmbed.failsLocal : adapter.FailsOnly Fault.IsLocal where
  textRequest := nofun
  completions := nofun
  fragment := nofun
  converseRequest := nofun
  embeddingRequest := by rintro _ ⟨⟩ modelId text; exact .ok _
  embedding := by rintro _ ⟨⟩ body strict; exact Body.decodeWith_local _ _ _
  imageRequest := nofun
  image := nofun

theorem StableDiffusion.failsLocal : adapter.FailsOnly Fault.IsLocal where
  textRequest := nofun
  completions := nofun
  fragment := nofun
  converseRequest := nofun
  embeddingRequest := nofun
  embedding := nofun
  imageRequest := by
    rintro _ ⟨⟩ modelId description width height settings
    exact Fault.ofConversion_local _
  image := by rintro _ ⟨⟩ body strict; exact Body.decodeWith_local _ _ _

theorem Adapter.failsLocal_of_standard {a : Adapter} (h : a ∈ standardRoutes.map Route.adapter) :
    a.FailsOnly Fault.IsLocal := by
  rcases cases_of_standard h with ⟨f, rfl⟩ | rfl | rfl | rfl
  · exact f.failsLocal
  · exact Jurassic.failsLocal
  · exact CohereEmbed.failsLocal
  · exact StableDiffusion.failsLocal

/-! ## Operations that an adapter may not have -/

/-- An operation fails as it does where the adapter has it, and otherwise with the refusal. -/
theorem Adapter.offer_bind {α β : Type} {p : Fault → Prop} {a : Adapter} {capability : Capability}
    {operation : Option α} {use : α → Except Fault β}
    (h : ∀ f ∈ operation, ModelGateway.FailsOnly p (use f))
    (hmissing : operation = none →
      p (.gateway (.unsupportedOperation a.provider capability.name))) :
    ModelGateway.FailsOnly p (a.offer capability operation >>= use) := by
  cases operation with
  | none => exact .error (hmissing rfl)
  | some f => exact h f rfl

/-- That whatever an adapter refuses, in a request or in a response, it refuses with an error of its
own. -/
structure Adapter.Candid (a : Adapter) : Prop where
  text : ∀ modelId prompt settings,
    ModelGateway.FailsOnly Fault.IsOwn (a.textRequest modelId prompt settings)
  completions : ∀ modelId body strict,
    ModelGateway.FailsOnly Fault.IsOwn (a.completions modelId body strict)
  converse : ∀ modelId turns settings,
    ModelGateway.FailsOnly Fault.IsOwn (a.converseRequest modelId turns settings)
  imageRequest : ∀ modelId description width height settings,
    ModelGateway.FailsOnly Fault.IsOwn (a.imageRequest modelId description width height settings)
  image : ∀ body strict, ModelGateway.FailsOnly Fault.IsOwn (a.image body strict)

theorem Adapter.candid_of_standard {a : Adapter} (h : a ∈ standardRoutes.map Route.adapter) :
    a.Candid :=
  have hown := (failsLocal_of_standard h).mono fun _ => Fault.IsLocal.own
  { text := fun _ _ _ => offer_bind (fun f hf => hown.textRequest f hf _ _ _) fun _ => nofun
    completions := fun _ _ _ => offer_bind (fun f hf => hown.completions f hf _ _ _) fun _ => nofun
    converse := fun _ _ _ => offer_bind (fun f hf => hown.converseRequest f hf _ _ _) fun _ => nofun
    imageRequest := fun _ _ _ _ _ =>
      offer_bind (fun f hf => hown.imageRequest f hf _ _ _ _ _) fun _ => nofun
    image := fun _ _ => offer_bind (fun f hf => hown.image f hf _ _) fun _ => nofun }

section
variable {a : Adapter} (h : a ∈ standardRoutes.map Route.adapter)
include h

theorem Adapter.embeddingRequest_own (modelId : String) (text : Value) :
    ModelGateway.FailsOnly Fault.IsOwn (a.embeddingRequest modelId text) :=
  have hown := (failsLocal_of_standard h).mono fun _ => Fault.IsLocal.own
  offer_bind (fun f hf => hown.embeddingRequest f hf _ _) fun _ => nofun

theorem Adapter.embedding_own (body : Body) (strict : Bool) :
    ModelGateway.FailsOnly Fault.IsOwn (a.embedding body strict) :=
  have hown := (failsLocal_of_standard h).mono fun _ => Fault.IsLocal.own
  offer_bind (fun f hf => hown.embedding f hf _ _) fun _ => nofun

theorem Adapter.fragment_own (chunk : Object) :
    ModelGateway.FailsOnly Fault.IsOwn (a.fragment chunk) :=
  have hown := (failsLocal_of_standard h).mono fun _ => Fault.IsLocal.own
  offer_bind (fun f hf => hown.fragment f hf _) fun _ => nofun

end

end ModelGateway
