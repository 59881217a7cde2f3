import ModelGateway.Proofs.Binary64.Range
import ModelGateway.Proofs.Chat.Format
import ModelGateway.Proofs.Decoding.Tolerance

/-!
# Which settings can be used

A setting of another kind than the wanted one is passed over, so nearly nothing in the settings makes
an encoder fail. One thing does: every integer may stand for a double, and an integer as large as
`2 ^ 1024 - 2 ^ 970` has none. It is found in two places, in the fields that hold doubles and in the
weights of further prompts; the encoders fail for it there, and for nothing else that settings say.
-/
namespace ModelGateway

/-- Why a value cannot stand where a double is wanted: it is an integer too large for one. What is no
number is passed over. -/
def Value.sizeFault? : Value → Option Conversion
  | .int n => if n.natAbs < Binary64.intLimit then none else some .numberTooLarge
  | _ => none

/-- Why a field cannot be read: it holds a double, and too large an integer is given for it. -/
def Field.sizeFault? (field : Field) (settings : Settings) : Option Conversion :=
  if field.key ≠ "" ∧ field.kind = .float then
    (settings.bind fun o => Object.value? o field.key).bind Value.sizeFault?
  else none

/-- The first reason in a schema. -/
def Schema.sizeFault? (schema : Schema) (settings : Settings) : Option Conversion :=
  schema.findSome? fun field => field.sizeFault? settings

/-! ## Reading a schema -/

theorem Value.numberFault?_of_accepts {v : Value} (h : Kind.float.accepts v = true) :
    v.numberFault? = v.sizeFault? := by
  cases v with
  | int n =>
    have hnone := Binary64.ofInt?_eq_none_iff n
    rw [numberFault?, sizeFault?]
    by_cases hlt : n.natAbs < Binary64.intLimit
    · have hsome : (Binary64.ofInt? n).isSome = true := by
        rw [Option.isSome_iff_ne_none, Ne, hnone]
        omega
      rw [if_pos hsome, if_pos hlt]
    · rw [hnone.mpr (Nat.le_of_not_lt hlt), if_neg hlt]
      rfl
  | float x => rfl
  | _ => cases h

theorem Value.sizeFault?_of_not_accepts {v : Value} (h : Kind.float.accepts v = false) :
    v.sizeFault? = none := by
  cases v with
  | int n => cases h
  | _ => rfl

/-- Conversion fails for doubles only, and for those only because of their size. -/
theorem Kind.convert_failsFor {kind : Kind} {v : Value} (h : kind.accepts v = true) :
    FailsFor (kind.convert v) (if kind = .float then v.sizeFault? else none) := by
  cases kind with
  | float => exact Value.numberFault?_of_accepts h ▸ v.toFloat_failsFor.map
  | _ => cases v <;> exact .ok _

theorem Settings.resolve_failsFor (settings : Settings) (key : String) (default : Value)
    (kind : Kind) :
    FailsFor (settings.resolve key default kind)
      (if kind = .float then (settings.bind fun o => Object.value? o key).bind Value.sizeFault?
        else none) := by
  unfold resolve
  cases settings.bind fun o => Object.value? o key with
  | none => simpa using FailsFor.ok default
  | some v =>
    dsimp only
    cases haccepts : kind.accepts v with
    | true => simpa using Kind.convert_failsFor haccepts
    | false =>
      have hnone : (if kind = .float then v.sizeFault? else none) = none := by
        split
        · rename_i hkind
          exact Value.sizeFault?_of_not_accepts (hkind ▸ haccepts)
        · rfl
      rw [Option.bind_some, hnone]
      exact .ok default

theorem Field.read_failsFor (field : Field) (settings : Settings) :
    FailsFor (field.read settings) (field.sizeFault? settings) := by
  unfold read sizeFault?
  by_cases hkey : field.key = ""
  · rw [if_pos hkey, if_neg fun h => h.1 hkey]
    exact .ok field.default
  · rw [if_neg hkey]
    simpa only [ne_eq, hkey, not_false_eq_true, true_and] using
      settings.resolve_failsFor field.key field.default field.kind

theorem Schema.read_eq_mapM (schema : Schema) (settings : Settings) :
    schema.read settings = schema.mapM fun field => (field.read settings).map (field.name, ·) := by
  induction schema with
  | nil => rfl
  | cons field rest ih =>
    rw [read, ih, List.mapM_cons]
    cases field.read settings <;> rfl

theorem Schema.read_failsFor (schema : Schema) (settings : Settings) :
    FailsFor (schema.read settings) (schema.sizeFault? settings) := by
  rw [read_eq_mapM]
  exact .mapM (fun field => (field.read_failsFor settings).map) schema

theorem Schema.read_of_sizeFault {schema : Schema} {settings : Settings} {c : Conversion}
    (h : schema.sizeFault? settings = some c) : schema.read settings = .error c := by
  have hread := schema.read_failsFor settings
  rwa [h] at hread

namespace StableDiffusion

/-- The items that settings give as further prompts; none unless they give a list. -/
def givenPrompts (settings : Settings) : List Value :=
  ((settings.bind fun o => Object.value? o "text_prompts").bind Value.items?).getD []

/-- Why further prompts cannot be used: the first of them, in which the weight is too large. -/
def weightFault? (settings : Settings) : Option Conversion :=
  ((givenPrompts settings).filterMap extraPrompt?).findSome? fun entry => entry.2.sizeFault?

end StableDiffusion

/-! ## The encoders -/

namespace ChatFormat

variable (f : ChatFormat) (modelId : String) (settings : Settings)

theorem textBody_failsFor (prompt : Value) :
    FailsFor (f.textBody modelId prompt settings) (f.schema.sizeFault? settings) := by
  have hread := f.schema.read_failsFor settings
  cases f with
  | claude =>
    refine hread.bind fun record => ?_
    dsimp only
    split
    · exact .ok _
    · exact .ok _
  | _ => exact hread.bind fun _ => .ok _

end ChatFormat

/-- System texts that cannot be joined stop a request with any settings only if they stop the one
without settings. -/
theorem CommandR.additional_error_without {e : Exchange} {record plain : Object} {c : Conversion}
    (hplain : schema.read none = .ok plain) (h : additional e record = .error c) :
    additional e plain = .error c := by
  have hholds : Object.holds (sharedFields plain) "preamble" = false := by
    rw [Object.holds, value?_sharedFields_preamble hplain]
    rfl
  unfold additional preamble at h ⊢
  dsimp only at h ⊢
  cases hempty : e.system.isEmpty with
  | true =>
    rw [hempty, Bool.or_true] at h
    cases h
  | false =>
    rw [hholds]
    rw [hempty] at h
    cases hpreamble : Object.holds (sharedFields record) "preamble" with
    | true =>
      rw [hpreamble] at h
      cases h
    | false =>
      rw [hpreamble] at h
      cases hjoin : joinLines e.system with
      | ok joined =>
        rw [hjoin] at h
        cases h
      | error c' =>
        rw [hjoin] at h
        exact h

namespace ChatFormat

variable {f : ChatFormat} {turns : List Turn} {settings : Settings} {record plain : Object}

theorem additional_error_without {fault : Fault} (hplain : f.schema.read none = .ok plain)
    (h : f.additional turns record = .error fault) : f.additional turns plain = .error fault := by
  cases f with
  | commandR =>
    unfold additional at h ⊢
    cases he : CommandR.Exchange.ofTurns turns with
    | error e =>
      rw [he] at h
      exact h
    | ok e =>
      rw [he] at h
      change Fault.ofConversion (CommandR.additional e record) = _ at h
      change Fault.ofConversion (CommandR.additional e plain) = _
      cases hextra : CommandR.additional e record with
      | ok extra =>
        rw [hextra] at h
        cases h
      | error c => rwa [CommandR.additional_error_without hplain hextra, ← hextra]
  | _ => cases h

/-- A conversation without a transcript leaves additional fields only where they are not made of
it. -/
theorem additional_ok_without (plain : Object) {e : GatewayError} {extra : Object}
    (hturns : Transcript.ofTurns turns = .error e) (h : f.additional turns record = .ok extra) :
    ∃ others, f.additional turns plain = .ok others := by
  cases f with
  | commandR =>
    obtain ⟨exchange, hexchange, _⟩ := ok_of_bind_eq_ok h
    obtain ⟨t, ht⟩ := CommandR.Exchange.transcript_of_ofTurns (Fault.ok_of_ofGateway hexchange)
    cases hturns.symm.trans ht
  | _ => exact ⟨_, rfl⟩

/-- Settings that can be read make no request fail that is made without settings. -/
theorem converseRequest_of_read (modelId : String) (hread : f.schema.read settings = .ok record)
    (hplain : f.schema.read none = .ok plain) :
    (∃ request, f.adapter.converseRequest modelId turns settings = .ok request) ∨
      f.adapter.converseRequest modelId turns settings =
        f.adapter.converseRequest modelId turns none := by
  rw [converseRequest_eq, converseRequest_eq, Fault.ofConversion_bind hread,
    Fault.ofConversion_bind hplain]
  cases hextra : f.additional turns record with
  | error fault =>
    rw [additional_error_without hplain hextra]
    exact .inr rfl
  | ok extra =>
    unfold ConverseRequest.make
    cases ht : Transcript.ofTurns turns with
    | ok t =>
      refine .inl ?_
      change ∃ request, (Fault.ofConversion (f.sampling record).toConverse >>= _) = _
      rw [Fault.ofConversion_bind (toConverse_sampling hread)]
      exact ⟨_, rfl⟩
    | error e =>
      obtain ⟨others, hothers⟩ := additional_ok_without plain ht hextra
      refine .inr ?_
      rw [hothers]
      change (Fault.ofConversion (f.sampling record).toConverse >>= _) =
        (Fault.ofConversion (f.sampling plain).toConverse >>= _)
      rw [Fault.ofConversion_bind (toConverse_sampling hread),
        Fault.ofConversion_bind (toConverse_sampling hplain)]
      rfl

end ChatFormat

theorem Jurassic.textRequest_failsFor (prompt : Value) (settings : Settings) :
    FailsFor (textRequest prompt settings) (schema.sizeFault? settings) :=
  (schema.read_failsFor settings).bind fun _ => .ok _

namespace StableDiffusion

theorem promptWeight_failsFor (weight : Value) :
    FailsFor (promptWeight weight) weight.sizeFault? := by
  unfold promptWeight
  cases haccepts : Kind.float.accepts weight with
  | true => exact Value.numberFault?_of_accepts haccepts ▸ weight.toFloat_failsFor.map
  | false => exact Value.sizeFault?_of_not_accepts haccepts ▸ .ok _

theorem extraPrompts_failsFor (items : List Value) :
    FailsFor (extraPrompts items)
      ((items.filterMap extraPrompt?).findSome? fun entry => entry.2.sizeFault?) := by
  refine .mapM ?_ _
  intro (text, weight)
  exact (promptWeight_failsFor weight).bind fun _ => .ok _

theorem elements_text_prompts {settings : Settings} {record : Object}
    (h : schema.read settings = .ok record) :
    (Object.value record "text_prompts").elements = .ok (givenPrompts settings) := by
  have hfield := Schema.field_read h "text_prompts" rfl
  change settings.resolve "text_prompts" .null .list = _ at hfield
  unfold Settings.resolve at hfield
  unfold givenPrompts
  cases hgiven : settings.bind fun o => Object.value? o "text_prompts" with
  | none =>
    rw [hgiven] at hfield
    rw [← Except.ok.inj hfield]
    rfl
  | some v =>
    rw [hgiven] at hfield
    cases v with
    | list items | tuple items =>
      rw [← Except.ok.inj hfield]
      cases items <;> rfl
    | _ =>
      rw [← Except.ok.inj hfield]
      rfl

theorem imageRequest_failsFor (description width height : Value) (settings : Settings) :
    FailsFor (imageRequest description width height settings)
      ((schema.sizeFault? settings).or (weightFault? settings)) := by
  refine (schema.read_failsFor settings).bind_or fun record hrecord => ?_
  rw [elements_text_prompts hrecord]
  change FailsFor (extraPrompts (givenPrompts settings) >>= _) _
  exact (extraPrompts_failsFor _).bind fun _ => .ok _

end StableDiffusion

theorem Schema.sizeFault?_without (schema : Schema) : schema.sizeFault? none = none := by
  refine List.findSome?_eq_none_iff.mpr fun field _ => ?_
  unfold Field.sizeFault?
  split <;> rfl

/-- Reading settings fails for an integer too large for the double that a field holds, and for
nothing else. So do the encoders, with the weights of further prompts among the fields. A
conversation is encoded with all other settings, or it cannot be encoded without settings either. -/
theorem settings_fail_for_size_only (settings : Settings) :
    (∀ schema : Schema, FailsFor (schema.read settings) (schema.sizeFault? settings)) ∧
    (∀ (f : ChatFormat) modelId prompt,
      FailsFor (f.adapter.textRequest modelId prompt settings)
        ((f.schema.sizeFault? settings).map .conversion)) ∧
    (∀ modelId prompt,
      FailsFor (Jurassic.adapter.textRequest modelId prompt settings)
        ((Jurassic.schema.sizeFault? settings).map .conversion)) ∧
    (∀ modelId description width height,
      FailsFor (StableDiffusion.adapter.imageRequest modelId description width height settings)
        (((StableDiffusion.schema.sizeFault? settings).or
          (StableDiffusion.weightFault? settings)).map .conversion)) ∧
    ∀ (f : ChatFormat) modelId turns,
      match f.schema.sizeFault? settings with
      | some c => f.adapter.converseRequest modelId turns settings = .error (.conversion c)
      | none =>
        (∃ request, f.adapter.converseRequest modelId turns settings = .ok request) ∨
          f.adapter.converseRequest modelId turns settings =
            f.adapter.converseRequest modelId turns none := by
  refine ⟨fun schema => schema.read_failsFor settings, ?_, ?_, ?_, ?_⟩
  · intro f modelId prompt
    rw [f.textRequest_eq]
    exact (f.textBody_failsFor modelId settings prompt).ofConversion
  · intro modelId prompt
    exact (Jurassic.textRequest_failsFor prompt settings).ofConversion
  · intro modelId description width height
    exact (StableDiffusion.imageRequest_failsFor description width height settings).ofConversion
  · intro f modelId turns
    obtain ⟨plain, hplain⟩ : ∃ plain, f.schema.read none = .ok plain := by
      have hnone := f.schema.read_failsFor none
      rwa [f.schema.sizeFault?_without] at hnone
    cases hsize : f.schema.sizeFault? settings with
    | some c =>
      change f.adapter.converseRequest modelId turns settings = _
      rw [f.converseRequest_eq, Schema.read_of_sizeFault hsize]
      rfl
    | none =>
      have hread := f.schema.read_failsFor settings
      rw [hsize] at hread
      obtain ⟨record, hrecord⟩ := hread
      exact ChatFormat.converseRequest_of_read modelId hrecord hplain

/-- Settings with a temperature of ten to the power of 309. -/
def hugeTemperature : Settings := some [("temperature", .int (Nat.pow 10 309))]

theorem sizeFault_hugeTemperature :
    Titan.schema.sizeFault? hugeTemperature = some .numberTooLarge := by decide +kernel

theorem huge_temperature_cannot_be_read :
    Titan.schema.read hugeTemperature = .error .numberTooLarge ∧
      Titan.adapter.textRequest "amazon.titan-text-express-v1" (.text "Hi") hugeTemperature =
        .error (.conversion .numberTooLarge) ∧
      ¬ ∀ settings, ∃ record, Titan.schema.read settings = .ok record := by
  have herror := Schema.read_of_sizeFault sizeFault_hugeTemperature
  refine ⟨herror, ?_, ?_⟩
  · rw [show Titan.adapter = ChatFormat.titan.adapter from rfl, ChatFormat.textRequest_eq,
      ChatFormat.textBody, Titan.textRequest, herror]
    rfl
  · intro h
    obtain ⟨record, hrecord⟩ := h hugeTemperature
    cases herror.symm.trans hrecord

end ModelGateway
