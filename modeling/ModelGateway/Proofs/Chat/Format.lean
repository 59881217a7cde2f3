import ModelGateway.Registry
import ModelGateway.Proofs.Chat.Exchange

/-!
# What the formats of conversations have in common

Six adapters encode conversations. They read a schema of settings each, and differ in where the
sampling parameters stand in the record, in their additional fields and in their tools; everything
else is one encoder. What it makes of a conversation in which every turn has a place, and that it
refuses every other, is shown here once.
-/
namespace ModelGateway

/-- The adapters that encode conversations. -/
inductive ChatFormat where
  | titan
  | claude
  | commandR
  | llama
  | mistral
  | jamba
  deriving DecidableEq, Repr

namespace ChatFormat

def adapter : ChatFormat → Adapter
  | titan => Titan.adapter
  | claude => Claude.adapter
  | commandR => CommandR.adapter
  | llama => Llama.adapter
  | mistral => Mistral.adapter
  | jamba => Jamba.adapter

def schema : ChatFormat → Schema
  | titan => Titan.schema
  | claude => Claude.schema
  | commandR => CommandR.schema
  | llama => Llama.schema
  | mistral => Mistral.schema
  | jamba => Jamba.schema

def sampling : ChatFormat → Object → Sampling
  | titan => Titan.sampling
  | claude => Claude.sampling
  | commandR => CommandR.sampling
  | llama => Llama.sampling
  | mistral => Mistral.sampling
  | jamba => Jamba.sampling

def tools : ChatFormat → String → Object → Option Object
  | claude => Claude.toolConfig
  | _ => fun _ _ => none

/-- The additional fields of a request. Only Command R puts the conversation among them. -/
def additional (f : ChatFormat) (turns : List Turn) (record : Object) : Except Fault Object :=
  match f with
  | commandR => do
    let exchange ← Fault.ofGateway (CommandR.Exchange.ofTurns turns)
    Fault.ofConversion (CommandR.additional exchange record)
  | mistral => .ok (Mistral.additional record)
  | jamba => .ok (Jamba.additional record)
  | _ => .ok []

/-- The text body of a format; only Claude's depends on the model. -/
def textBody (f : ChatFormat) (modelId : String) (prompt : Value) (settings : Settings) :
    Except Conversion Object :=
  match f with
  | titan => Titan.textRequest prompt settings
  | claude => Claude.textRequest modelId prompt settings
  | commandR => CommandR.textRequest prompt settings
  | llama => Llama.textRequest prompt settings
  | mistral => Mistral.textRequest prompt settings
  | jamba => Jamba.textRequest prompt settings

theorem textRequest_eq (f : ChatFormat) (modelId : String) (prompt : Value) (settings : Settings) :
    f.adapter.textRequest modelId prompt settings =
      Fault.ofConversion (f.textBody modelId prompt settings) := by
  cases f <;> rfl

end ChatFormat

/-- The standard adapters: one for each format of conversations, and three without conversations. -/
theorem Adapter.cases_of_standard {a : Adapter} (h : a ∈ standardRoutes.map Route.adapter) :
    (∃ f : ChatFormat, a = f.adapter) ∨ a = Jurassic.adapter ∨ a = CohereEmbed.adapter ∨
      a = StableDiffusion.adapter := by
  simp only [standardRoutes, Route.make, List.map_cons, List.map_nil, List.mem_cons,
    List.not_mem_nil, or_false] at h
  rcases h with rfl | rfl | rfl | rfl | rfl | rfl | rfl | rfl | rfl | rfl | rfl
  · exact .inl ⟨.titan, rfl⟩
  · exact .inl ⟨.titan, rfl⟩
  · exact .inl ⟨.claude, rfl⟩
  · exact .inl ⟨.commandR, rfl⟩
  · exact .inr (.inr (.inl rfl))
  · exact .inl ⟨.llama, rfl⟩
  · exact .inl ⟨.mistral, rfl⟩
  · exact .inl ⟨.mistral, rfl⟩
  · exact .inl ⟨.jamba, rfl⟩
  · exact .inr (.inl rfl)
  · exact .inr (.inr (.inr rfl))

namespace ChatFormat

variable (f : ChatFormat) (modelId : String) (turns : List Turn) (settings : Settings)

/-- Every format encodes a conversation in the same steps. -/
theorem converseRequest_eq :
    f.adapter.converseRequest modelId turns settings = do
      let record ← Fault.ofConversion (f.schema.read settings)
      let extra ← f.additional turns record
      let inference ← Fault.ofConversion (f.sampling record).toConverse
      let request ← Fault.ofGateway
        (ConverseRequest.make modelId turns inference extra (f.tools modelId record))
      return request.toObject := by
  cases f with
  | titan =>
    change Titan.converseRequest modelId turns settings = _
    unfold Titan.converseRequest
    change _ = (Fault.ofConversion (Titan.schema.read settings) >>= _)
    cases Titan.schema.read settings <;> rfl
  | llama =>
    change Llama.converseRequest modelId turns settings = _
    unfold Llama.converseRequest
    change _ = (Fault.ofConversion (Llama.schema.read settings) >>= _)
    cases Llama.schema.read settings <;> rfl
  | claude => rfl
  | commandR =>
    change CommandR.converseRequest modelId turns settings = _
    unfold CommandR.converseRequest
    change _ = (Fault.ofConversion (CommandR.schema.read settings) >>= _)
    cases CommandR.schema.read settings with
    | error c => rfl
    | ok record =>
      -- Command R makes its additional fields in two steps, which are one here.
      change _ = ((Fault.ofGateway (CommandR.Exchange.ofTurns turns) >>= _) >>= _)
      cases CommandR.Exchange.ofTurns turns <;> rfl
  | mistral => rfl
  | jamba => rfl

variable {f modelId turns settings} {record : Object}

/-- The stop list of every format is unset or a list. -/
theorem read_stop (h : f.schema.read settings = .ok record) :
    (f.sampling record).stop = .null ∨ ∃ items, (f.sampling record).stop = .list items := by
  cases f with
  | titan =>
    exact Field.read_textList rfl (.inr ⟨_, rfl⟩) (Schema.field_read h "stop_sequences" rfl)
  | claude =>
    exact Field.read_textList rfl (.inl rfl) (Schema.field_read h "stop_sequences" rfl)
  | commandR => exact CommandR.read_stop_sequences h
  | llama => exact .inl rfl
  | mistral => exact Field.read_textList rfl (.inl rfl) (Schema.field_read h "stop" rfl)
  | jamba => exact Field.read_textList rfl (.inl rfl) (Schema.field_read h "stop" rfl)

/-- The sampling parameters of a request, under their names in the converse format. -/
def inference (f : ChatFormat) (record : Object) : Object :=
  let s := f.sampling record
  Object.dropNull [("temperature", s.temperature), ("topP", s.topP), ("maxTokens", s.maxTokens),
    ("stopSequences", s.stop)]

theorem toConverse_sampling (h : f.schema.read settings = .ok record) :
    (f.sampling record).toConverse = .ok (f.inference record) :=
  Sampling.toConverse_eq (read_stop h)

theorem additional_of_known (hread : f.schema.read settings = .ok record)
    (hturns : ∀ t ∈ turns, t.Ordinary)
    (hknown : ∀ m ∈ turns.map Turn.toMessage, m.role ∈ knownRoles) :
    ∃ extra, f.additional turns record = .ok extra := by
  cases f with
  | commandR =>
    obtain ⟨e, he, hsystem, _⟩ :=
      CommandR.Exchange.ofTurns_of_known (Turn.Ordinary.normal_messages hturns) hknown
    have htexts : ∀ v ∈ e.system, ∃ s, v = .text s := hsystem ▸ systemContents_text hturns
    obtain ⟨extra, hextra, _⟩ := CommandR.additional_eq_ok hread htexts
    refine ⟨extra, ?_⟩
    rw [additional, Fault.ofGateway_bind he, hextra]
    rfl
  | _ => exact ⟨_, rfl⟩

/-- A conversation in which every turn has a place is encoded. -/
theorem converseRequest_of_known (modelId : String) (hread : f.schema.read settings = .ok record)
    (hturns : ∀ t ∈ turns, t.Ordinary)
    (hknown : ∀ m ∈ turns.map Turn.toMessage, m.role ∈ knownRoles) :
    ∃ extra, f.additional turns record = .ok extra ∧
      f.adapter.converseRequest modelId turns settings = .ok (ConverseRequest.toObject ⟨modelId,
        ⟨systemContents (turns.map Turn.toMessage),
          (turns.map Turn.toMessage).filterMap Message.utterance?⟩,
        f.inference record, extra, f.tools modelId record⟩) := by
  obtain ⟨extra, hextra⟩ := additional_of_known hread hturns hknown
  have hmake : ConverseRequest.make modelId turns (f.inference record) extra
      (f.tools modelId record) = .ok ⟨modelId, ⟨systemContents (turns.map Turn.toMessage),
        (turns.map Turn.toMessage).filterMap Message.utterance?⟩, f.inference record, extra,
        f.tools modelId record⟩ := by
    rw [ConverseRequest.make, Transcript.ofTurns,
      Transcript.ofMessages_of_known (Turn.Ordinary.normal_messages hturns) hknown]
    rfl
  refine ⟨extra, hextra, ?_⟩
  rw [converseRequest_eq, Fault.ofConversion_bind hread, hextra]
  change (Fault.ofConversion (f.sampling record).toConverse >>= _) = _
  rw [Fault.ofConversion_bind (toConverse_sampling hread), Fault.ofGateway_bind hmake]
  rfl

/-- A conversation with a turn that has no place is refused. -/
theorem converseRequest_of_unknown (modelId : String) (hread : f.schema.read settings = .ok record)
    (hturns : ∀ t ∈ turns, t.Ordinary)
    (hunknown : ∃ m ∈ turns.map Turn.toMessage, m.role ∉ knownRoles) :
    ∃ given, f.adapter.converseRequest modelId turns settings =
      .error (.gateway (.invalidParameter (.role given))) := by
  have hnormal := Turn.Ordinary.normal_messages hturns
  rw [converseRequest_eq, Fault.ofConversion_bind hread]
  cases hextra : f.additional turns record with
  | error fault =>
    -- Only Command R looks at the conversation before the transcript is made.
    cases f with
    | commandR =>
      obtain ⟨given, hgiven⟩ := CommandR.Exchange.ofTurns_of_unknown hnormal hunknown
      rw [additional, hgiven] at hextra
      obtain rfl := Except.error.inj hextra
      exact ⟨given, rfl⟩
    | _ => cases hextra
  | ok extra =>
    obtain ⟨given, hgiven⟩ := Transcript.ofMessages_of_unknown hnormal hunknown
    change ∃ given, (Fault.ofConversion (f.sampling record).toConverse >>= _) = _
    rw [Fault.ofConversion_bind (toConverse_sampling hread), ConverseRequest.make,
      Transcript.ofTurns, hgiven]
    exact ⟨given, rfl⟩

/-- What a request was made from. -/
theorem of_converseRequest {request : Object}
    (h : f.adapter.converseRequest modelId turns settings = .ok request) :
    ∃ record extra t, f.schema.read settings = .ok record ∧ f.additional turns record = .ok extra ∧
      Transcript.ofTurns turns = .ok t ∧ request = ConverseRequest.toObject
        ⟨modelId, t, f.inference record, extra, f.tools modelId record⟩ := by
  rw [converseRequest_eq] at h
  obtain ⟨record, hread, h⟩ := ok_of_bind_eq_ok h
  have hread := Fault.ok_of_ofConversion hread
  obtain ⟨extra, hextra, h⟩ := ok_of_bind_eq_ok h
  rw [Fault.ofConversion_bind (toConverse_sampling hread)] at h
  obtain ⟨made, hmade, h⟩ := ok_of_bind_eq_ok h
  unfold ConverseRequest.make at hmade
  cases ht : Transcript.ofTurns turns with
  | error e =>
    rw [ht] at hmade
    cases hmade
  | ok t =>
    rw [ht] at hmade
    obtain rfl := Except.ok.inj hmade
    exact ⟨record, extra, t, hread, hextra, rfl, (Except.ok.inj h).symm⟩

end ChatFormat
end ModelGateway
