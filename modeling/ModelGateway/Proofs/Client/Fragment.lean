import ModelGateway.Client
import ModelGateway.Proofs.Chat.Format
import ModelGateway.Proofs.Client.Delivery
import ModelGateway.Proofs.Display

/-!
# The fragments that adapters give

The adapters of the standard routes decode every chunk that holds an object, to a fragment that is
not empty or to none; so does the one decoder of chat events.
-/
namespace ModelGateway

/-- Every chunk is decoded, and no fragment is empty. -/
def Adapter.Fluent (a : Adapter) : Prop :=
  ∀ chunk, ∃ fragment, a.fragment chunk = .ok fragment ∧ fragment ≠ some ""

theorem Adapter.fluent_of_total {a : Adapter} {decode : Object → Option String}
    (h : a.fragment? = some fun chunk => .ok (decode chunk))
    (hdecode : ∀ chunk, decode chunk ≠ some "") : a.Fluent := by
  intro chunk
  refine ⟨decode chunk, ?_, hdecode chunk⟩
  rw [fragment, h]
  rfl

theorem Titan.fluent : Titan.adapter.Fluent :=
  Adapter.fluent_of_total rfl fun _ => Value.fragment_ne_empty _

theorem Llama.fluent : Llama.adapter.Fluent :=
  Adapter.fluent_of_total rfl fun _ => Value.fragment_ne_empty _

theorem CommandR.fluent : CommandR.adapter.Fluent :=
  Adapter.fluent_of_total rfl fun _ => Value.fragment_ne_empty _

theorem Jamba.fluent : Jamba.adapter.Fluent := by
  apply Adapter.fluent_of_total rfl
  intro chunk
  unfold Jamba.fragment
  split
  · exact Value.fragment_ne_empty _
  · exact nofun

theorem Mistral.fluent : Mistral.adapter.Fluent := by
  apply Adapter.fluent_of_total rfl
  intro chunk
  unfold Mistral.fragment
  split
  · exact Value.fragment_ne_empty _
  · exact nofun

theorem Claude.fluent : Claude.adapter.Fluent := by
  apply Adapter.fluent_of_total rfl
  intro chunk
  unfold Claude.fragment
  split
  · rename_i t ht
    exact fun h => Value.fragment_ne_empty _ (ht.trans h)
  · split
    · exact Value.fragment_ne_empty _
    · exact nofun

/-- The adapters of the standard routes that implement streams of text. -/
theorem fluent_of_standard {a : Adapter} (h : a ∈ standardRoutes.map Route.adapter)
    (hstream : a.implements .textStreaming = true) : a.Fluent := by
  rcases Adapter.cases_of_standard h with ⟨f, rfl⟩ | rfl | rfl | rfl
  · cases f with
    | titan => exact Titan.fluent
    | claude => exact Claude.fluent
    | commandR => exact CommandR.fluent
    | llama => exact Llama.fluent
    | mistral => exact Mistral.fluent
    | jamba => exact Jamba.fluent
  -- The three other adapters give no fragments.
  · exact absurd hstream (by decide)
  · exact absurd hstream (by decide)
  · exact absurd hstream (by decide)

theorem Reply.streamText_ne_empty (event : Value) : Reply.streamText event ≠ some "" :=
  Value.fragment_ne_empty _

namespace Client

variable {capability : Capability} {c : Client capability}

open Delivery (fragments refusal? readable)

theorem fragments_ne_empty (h : c.route.adapter.Fluent) (items : List Body) :
    "" ∉ fragments c.textFragment items := by
  intro hmem
  obtain ⟨chunk, _, hchunk⟩ := Delivery.exists_item_of_mem_fragments hmem
  unfold textFragment at hchunk
  cases ho : chunk.object c.strict with
  | error f =>
    rw [ho] at hchunk
    cases hchunk
  | ok o =>
    obtain ⟨fragment, hf, hne⟩ := h o
    rw [ho] at hchunk
    exact hne (Except.ok.inj (hf.symm.trans hchunk))

/-- Without strictness every chunk counts as an object, so every chunk can be decoded. -/
theorem textFragment_readable (h : c.route.adapter.Fluent) (hs : c.strict = false) (chunk : Body) :
    readable c.textFragment chunk = true := by
  have hobject : ∃ o, chunk.object c.strict = .ok o := by
    rw [hs]
    unfold Body.object
    cases chunk.decode with
    | ok o => exact ⟨o, rfl⟩
    | error why => exact ⟨[], rfl⟩
  obtain ⟨o, ho⟩ := hobject
  obtain ⟨fragment, hf, _⟩ := h o
  have hchunk : c.textFragment chunk = .ok fragment := by
    unfold textFragment
    rw [ho]
    exact hf
  rw [readable, hchunk]

theorem chatFragments_ne_empty (items : List Value) : "" ∉ fragments chatFragment items := by
  intro hmem
  obtain ⟨event, _, hevent⟩ := Delivery.exists_item_of_mem_fragments hmem
  exact Reply.streamText_ne_empty event (Except.ok.inj hevent)

end Client
end ModelGateway
