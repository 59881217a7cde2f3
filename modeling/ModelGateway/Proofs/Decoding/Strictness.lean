import ModelGateway.Registry
import ModelGateway.Proofs.Run

/-!
# Strictness only rejects

A decoder turns a body into an object and the object into a result. Strictness decides what becomes
of a body that holds no object: a strict decoder rejects it, a tolerant one goes on with the empty
object, in which every decoder finds nothing. All other bodies are decoded alike.
-/
namespace ModelGateway

namespace Body

/-- That a body is an object or the text of one. -/
def Holds : Body → Object → Prop
  | octets bytes, o => ∃ s, Utf8.decode bytes = .ok s ∧ Json.parse s = .ok (.object o)
  | value (.object held), o => held = o
  | value (.text s), o => Json.parse s = .ok (.object o)
  | value _, _ => False

/-- The empty text, which is told apart when a body is decoded, is no document either. -/
theorem parse_empty (v : Value) : Json.parse "" ≠ .ok v := nofun

theorem decodeText_eq_ok_iff (s : String) (o : Object) :
    decodeText s = .ok o ↔ Json.parse s = .ok (.object o) := by
  unfold decodeText
  by_cases hs : s = ""
  · subst hs
    rw [if_pos rfl]
    exact ⟨nofun, fun h => absurd h (parse_empty _)⟩
  · rw [if_neg hs]
    cases Json.parse s with
    | error f => exact ⟨nofun, nofun⟩
    | ok v =>
      cases v with
      | object o' => simp only [Except.ok.injEq, Value.object.injEq]
      | _ => exact ⟨nofun, nofun⟩

theorem decode_eq_ok_iff (body : Body) (o : Object) : body.decode = .ok o ↔ body.Holds o := by
  cases body with
  | octets bytes =>
    simp only [decode, Holds]
    cases Utf8.decode bytes with
    | error f => exact ⟨nofun, fun ⟨_, hs, _⟩ => nomatch hs⟩
    | ok s => simpa using decodeText_eq_ok_iff s o
  | value v =>
    cases v with
    | object held => simp only [decode, Holds, Except.ok.injEq]
    | text s => exact decodeText_eq_ok_iff s o
    | _ =>
      refine ⟨?_, nofun⟩
      simp only [decode]
      split <;> exact nofun

/-- A body holds one object or is malformed. -/
theorem holds_or_malformed (body : Body) :
    (∃ o, body.Holds o ∧ ∀ strict, body.object strict = .ok o) ∨
      (¬∃ o, body.Holds o) ∧ body.object false = .ok [] ∧
        ∃ why, body.object true = .error (.gateway (.malformedResponse why)) := by
  unfold object
  cases hd : body.decode with
  | ok o => exact .inl ⟨o, (decode_eq_ok_iff body o).mp hd, fun _ => rfl⟩
  | error why =>
    refine .inr ⟨?_, rfl, why, rfl⟩
    rintro ⟨o, ho⟩
    rw [(decode_eq_ok_iff body o).mpr ho] at hd
    cases hd

variable {α : Type} {f : Object → Except Conversion α}

theorem decodeWith_of_object {body : Body} {strict : Bool} {o : Object}
    (h : body.object strict = .ok o) : body.decodeWith f strict = Fault.ofConversion (f o) := by
  rw [decodeWith, h]
  rfl

theorem decodeWith_of_malformed {body : Body} {strict : Bool} {e : Fault}
    (h : body.object strict = .error e) : body.decodeWith f strict = .error e := by
  rw [decodeWith, h]
  rfl

end Body

theorem Fault.ofConversion_ne_gateway {α : Type} (outcome : Except Conversion α)
    (e : GatewayError) :
    Fault.ofConversion outcome ≠ .error (.gateway e) := by
  cases outcome with
  | ok a => exact nofun
  | error c => exact nofun

/-- A decoder that strictness makes reject the bodies without an object, and does nothing else to.
Without strictness such a body decodes to `nothing`. -/
structure OnlyRejects {α : Type} (decode : Body → Bool → Except Fault α) (nothing : α) : Prop where
  rejected : ∀ body why, decode body true = .error (.gateway (.malformedResponse why)) →
    decode body false = .ok nothing
  otherwise : ∀ body, (∀ why, decode body true ≠ .error (.gateway (.malformedResponse why))) →
    decode body true = decode body false
  malformed_iff : ∀ body strict,
    (∃ why, decode body strict = .error (.gateway (.malformedResponse why))) ↔
      strict = true ∧ ¬∃ o, body.Holds o

theorem onlyRejects_decodeWith {α : Type} {f : Object → Except Conversion α} {nothing : α}
    (h : f [] = .ok nothing) : OnlyRejects (Body.decodeWith f) nothing := by
  have never : ∀ o why, Fault.ofConversion (f o) ≠ .error (.gateway (.malformedResponse why)) :=
    fun o why => Fault.ofConversion_ne_gateway (f o) (.malformedResponse why)
  constructor
  · intro body why hwhy
    rcases body.holds_or_malformed with ⟨o, _, ho⟩ | ⟨_, hempty, _⟩
    · rw [Body.decodeWith_of_object (ho true)] at hwhy
      exact absurd hwhy (never o why)
    · rw [Body.decodeWith_of_object hempty, h]
      rfl
  · intro body hnone
    rcases body.holds_or_malformed with ⟨o, _, ho⟩ | ⟨_, _, why, hmalformed⟩
    · rw [Body.decodeWith_of_object (ho true), Body.decodeWith_of_object (ho false)]
    · exact absurd (Body.decodeWith_of_malformed hmalformed) (hnone why)
  · intro body strict
    rcases body.holds_or_malformed with ⟨o, hholds, ho⟩ | ⟨hno, hempty, why, hmalformed⟩
    · rw [Body.decodeWith_of_object (ho strict)]
      constructor
      · rintro ⟨why, hwhy⟩
        exact absurd hwhy (never o why)
      · rintro ⟨_, hno⟩
        exact absurd ⟨o, hholds⟩ hno
    · cases strict with
      | true => exact ⟨fun _ => ⟨rfl, hno⟩, fun _ => ⟨why, Body.decodeWith_of_malformed hmalformed⟩⟩
      | false =>
        rw [Body.decodeWith_of_object hempty]
        exact ⟨fun ⟨why, hwhy⟩ => absurd hwhy (never [] why), nofun⟩

/-- For every decoder of the standard adapters strictness only rejects: a body without an object,
which otherwise decodes to no completion, to the empty vector or to a result without data. -/
theorem strictness_only_rejects (modelId : String) :
    OnlyRejects (Titan.adapter.completions modelId) [] ∧
      OnlyRejects (Claude.adapter.completions modelId) [] ∧
      OnlyRejects (CommandR.adapter.completions modelId) [] ∧
      OnlyRejects (Llama.adapter.completions modelId) [] ∧
      OnlyRejects (Mistral.adapter.completions modelId) [] ∧
      OnlyRejects (Jamba.adapter.completions modelId) [] ∧
      OnlyRejects (Jurassic.adapter.completions modelId) [] ∧
      OnlyRejects Titan.adapter.embedding [] ∧
      OnlyRejects CohereEmbed.adapter.embedding [] ∧
      OnlyRejects StableDiffusion.adapter.image ⟨.noData, none, .null, .null⟩ := by
  refine ⟨?_, ?_, ?_, ?_, ?_, ?_, ?_, ?_, ?_, ?_⟩
  · exact onlyRejects_decodeWith (f := Titan.completions modelId) rfl
  · exact onlyRejects_decodeWith (f := Claude.completions modelId) rfl
  · exact onlyRejects_decodeWith (f := fun o => .ok (CommandR.completions modelId o)) rfl
  · exact onlyRejects_decodeWith (f := fun o => .ok (Llama.completions modelId o)) rfl
  · exact onlyRejects_decodeWith (f := Mistral.completions modelId) rfl
  · exact onlyRejects_decodeWith (f := Jamba.completions modelId) rfl
  · exact onlyRejects_decodeWith (f := Jurassic.completions modelId) rfl
  · exact onlyRejects_decodeWith (f := Titan.embedding) rfl
  · exact onlyRejects_decodeWith (f := CohereEmbed.embedding) rfl
  · exact onlyRejects_decodeWith (f := fun o => .ok (StableDiffusion.image o)) rfl

end ModelGateway
