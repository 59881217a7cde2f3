import ModelGateway.Proofs.Chat.Format

/-!
# The text body and the converse request say the same

Each format writes its sampling parameters twice, under its own names in a text body and under common
names in a converse request. Both writings give the same parameters, and leave out the same ones; and
what the additional fields of a converse request take from the settings is in the text body too.
-/
namespace ModelGateway

/-- The sampling parameters that an object gives. -/
structure Sampled where
  temperature : Option Value
  topP : Option Value
  maxTokens : Option Value
  stop : Option Value

/-- The parameters that are not null. -/
def Sampled.set (s : Sampled) : Sampled where
  temperature := s.temperature.filter fun v => !v.isNull
  topP := s.topP.filter fun v => !v.isNull
  maxTokens := s.maxTokens.filter fun v => !v.isNull
  stop := s.stop.filter fun v => !v.isNull

def Sampling.toSampled (s : Sampling) : Sampled :=
  ⟨some s.temperature, some s.topP, some s.maxTokens, some s.stop⟩

/-- The names of the sampling parameters in a format. -/
structure SamplingNames where
  temperature : String
  topP : String
  maxTokens : String
  /-- None where there is no stop list. -/
  stop : Option String

namespace SamplingNames

def converse : SamplingNames := ⟨"temperature", "topP", "maxTokens", some "stopSequences"⟩

def read (names : SamplingNames) (o : Object) : Sampled where
  temperature := Object.value? o names.temperature
  topP := Object.value? o names.topP
  maxTokens := Object.value? o names.maxTokens
  stop := names.stop.bind (Object.value? o)

theorem read_dropNull (names : SamplingNames) {o : Object} (h : (o.map Prod.fst).Nodup) :
    names.read (Object.dropNull o) = (names.read o).set := by
  unfold read Sampled.set
  cases names.stop with
  | none => simp only [Object.value?_dropNull h, Option.bind_none, Option.filter_none]
  | some name => simp only [Object.value?_dropNull h, Option.bind_some]

end SamplingNames

namespace ChatFormat

/-- The names in a text body. Claude's depend on whether the model takes the Messages format. -/
def textNames (f : ChatFormat) (modelId : String) : SamplingNames :=
  match f with
  | titan => ⟨"temperature", "topP", "maxTokenCount", some "stopSequences"⟩
  | claude => ⟨"temperature", "top_p",
      if Claude.usesMessages modelId then "max_tokens" else "max_tokens_to_sample",
      some "stop_sequences"⟩
  | commandR => ⟨"temperature", "p", "max_tokens", some "stop_sequences"⟩
  | llama => ⟨"temperature", "top_p", "max_gen_len", none⟩
  | mistral => ⟨"temperature", "top_p", "max_tokens", some "stop"⟩
  | jamba => ⟨"temperature", "top_p", "max_tokens", some "stop"⟩

/-- The object in a text body that holds the sampling parameters. -/
def samplingPart (f : ChatFormat) (body : Object) : Object :=
  match f with
  | titan =>
    match Object.value body "textGenerationConfig" with
    | .object config => config
    | _ => []
  | _ => body

/-- The additional fields of a converse request that the settings give. -/
def settingsFields (f : ChatFormat) (record : Object) : Object :=
  match f with
  | commandR => CommandR.sharedFields record
  | mistral => Mistral.additional record
  | jamba => Jamba.additional record
  | _ => []

/-- That a text body says what a settings record says. -/
structure Tells (f : ChatFormat) (modelId : String) (record body : Object) : Prop where
  sampling : (f.textNames modelId).read (f.samplingPart body) = (f.sampling record).toSampled.set
  fields : ∀ key v, Object.value? (f.settingsFields record) key = some v →
    Object.value? body key = some v

variable {settings : Settings} {record : Object}

theorem read_inference (f : ChatFormat) (record : Object) :
    SamplingNames.converse.read (f.inference record) = (f.sampling record).toSampled.set :=
  SamplingNames.converse.read_dropNull
    (show ["temperature", "topP", "maxTokens", "stopSequences"].Nodup by decide)

/-- Parameters that are never null are all set. -/
theorem set_of_not_null {s : Sampling} (htemperature : s.temperature.isNull = false)
    (htopP : s.topP.isNull = false) (hmaxTokens : s.maxTokens.isNull = false) :
    s.toSampled.set = ⟨some s.temperature, some s.topP, some s.maxTokens,
      (some s.stop).filter fun v => !v.isNull⟩ := by
  simp [Sampled.set, Sampling.toSampled, Option.filter, htemperature, htopP, hmaxTokens]

theorem fields_of_subset {fields body : Object} (hkeys : (body.map Prod.fst).Nodup)
    (h : fields ⊆ body) (key : String) (v : Value) (hv : Object.value? fields key = some v) :
    Object.value? body key = some v :=
  Object.value?_of_mem hkeys (h (Object.mem_of_value? hv))

theorem titan_tells (modelId : String) (prompt : Value) (h : Titan.schema.read settings = .ok record) :
    ∃ body, Titan.textRequest prompt settings = .ok body ∧ Tells titan modelId record body := by
  unfold Titan.textRequest
  rw [h]
  refine ⟨_, rfl, ?_, nofun⟩
  have hstop := Schema.value_not_null h "stop_sequences" rfl rfl
  rw [set_of_not_null (s := titan.sampling record)
    (Schema.value_not_null h "temperature" rfl rfl)
    (Schema.value_not_null h "top_p" rfl rfl)
    (Schema.value_not_null h "max_token_count" rfl rfl)]
  change _ = Sampled.mk _ _ _ ((some (Object.value record "stop_sequences")).filter _)
  rw [Option.filter, hstop]
  rfl

theorem llama_tells (modelId : String) (prompt : Value) (h : Llama.schema.read settings = .ok record) :
    ∃ body, Llama.textRequest prompt settings = .ok body ∧ Tells llama modelId record body := by
  unfold Llama.textRequest
  rw [h]
  refine ⟨_, rfl, ?_, nofun⟩
  rw [set_of_not_null (s := llama.sampling record)
    (Schema.value_not_null h "temperature" rfl rfl)
    (Schema.value_not_null h "top_p" rfl rfl)
    (Schema.value_not_null h "max_gen_len" rfl rfl)]
  rfl

theorem claude_tells (modelId : String) (prompt : Value) (h : Claude.schema.read settings = .ok record) :
    ∃ body, Claude.textRequest modelId prompt settings = .ok body ∧
      Tells claude modelId record body := by
  unfold Claude.textRequest
  rw [h]
  cases hmessages : Claude.usesMessages modelId with
  | true =>
    refine ⟨_, rfl, ?_, nofun⟩
    rw [textNames, hmessages]
    exact SamplingNames.read_dropNull _ (show ["anthropic_version", "max_tokens", "messages",
      "temperature", "top_p", "top_k", "stop_sequences"].Nodup by decide)
  | false =>
    refine ⟨_, rfl, ?_, nofun⟩
    rw [textNames, hmessages]
    exact SamplingNames.read_dropNull _ (show ["prompt", "max_tokens_to_sample",
      "temperature", "top_p", "top_k", "stop_sequences"].Nodup by decide)

theorem mistral_tells (modelId : String) (prompt : Value)
    (h : Mistral.schema.read settings = .ok record) :
    ∃ body, Mistral.textRequest prompt settings = .ok body ∧ Tells mistral modelId record body := by
  have hkeys : ["prompt", "max_tokens", "temperature", "top_p", "top_k", "stop"].Nodup := by decide
  unfold Mistral.textRequest
  rw [h]
  refine ⟨_, rfl, SamplingNames.read_dropNull _ hkeys, ?_⟩
  refine fields_of_subset (Object.dropNull_keys_nodup hkeys) ?_
  exact List.filter_subset _ (by simp)

theorem jamba_tells (modelId : String) (prompt : Value)
    (h : Jamba.schema.read settings = .ok record) :
    ∃ body, Jamba.textRequest prompt settings = .ok body ∧ Tells jamba modelId record body := by
  have hkeys : ["messages", "temperature", "top_p", "max_tokens", "stop", "n", "frequency_penalty",
    "presence_penalty"].Nodup := by decide
  unfold Jamba.textRequest
  rw [h]
  refine ⟨_, rfl, ?_, ?_⟩
  · change (textNames jamba modelId).read (_ ++ Jamba.additional record) = _
    rw [Jamba.additional, ← Object.dropNull_append]
    exact SamplingNames.read_dropNull _ hkeys
  · refine fields_of_subset ?_ (List.subset_append_right _ _)
    rw [Jamba.additional, ← Object.dropNull_append]
    exact Object.dropNull_keys_nodup hkeys

theorem commandR_tells (modelId : String) (prompt : Value)
    (h : CommandR.schema.read settings = .ok record) :
    ∃ body, CommandR.textRequest prompt settings = .ok body ∧ Tells commandR modelId record body := by
  have hkeys : (["message", "temperature", "p", "max_tokens"] ++ CommandR.sharedNames).Nodup := by
    decide
  unfold CommandR.textRequest
  rw [h]
  refine ⟨_, rfl, ?_, ?_⟩
  · rw [set_of_not_null (s := commandR.sampling record)
      (Schema.value_not_null h "temperature" rfl rfl)
      (Schema.value_not_null h "p" rfl rfl)
      (Schema.value_not_null h "max_tokens" rfl rfl)]
    -- The stop list is among the shared fields, the other parameters stand in front of them.
    refine congrArg (Sampled.mk _ _ _) ?_
    change Object.value? (CommandR.sharedFields record) "stop_sequences" = _
    have hshared : ((CommandR.sharedNames.map fun name => (name, Object.value record name)).map
        Prod.fst).Nodup := show CommandR.sharedNames.Nodup by decide
    exact Object.value?_dropNull hshared "stop_sequences"
  · refine fields_of_subset ?_ (List.subset_append_right _ _)
    rw [List.map_append]
    exact hkeys.sublist (.append (.refl _) (CommandR.sharedFields_keys record))

/-- With settings that can be read there is a text body, and it says what their record says. -/
theorem exists_body_tells {f : ChatFormat} (modelId : String) (prompt : Value)
    (h : f.schema.read settings = .ok record) :
    ∃ body, f.textBody modelId prompt settings = .ok body ∧ Tells f modelId record body := by
  cases f with
  | titan => exact titan_tells modelId prompt h
  | claude => exact claude_tells modelId prompt h
  | commandR => exact commandR_tells modelId prompt h
  | llama => exact llama_tells modelId prompt h
  | mistral => exact mistral_tells modelId prompt h
  | jamba => exact jamba_tells modelId prompt h

/-- Whether an additional field is made of the conversation. A preamble is when the settings give
none. -/
def FromHistory (f : ChatFormat) (settings : Settings) (key : String) : Prop :=
  f = commandR ∧ (key = "message" ∨ key = "chat_history" ∨
    key = "preamble" ∧ settings.text? "preamble" = none)

/-- Additional fields that are not made of the conversation come from the settings. -/
theorem value?_additional {f : ChatFormat} {turns : List Turn} {extra : Object} {key : String}
    (hread : f.schema.read settings = .ok record) (hextra : f.additional turns record = .ok extra)
    (hkey : ¬ f.FromHistory settings key) :
    Object.value? extra key = Object.value? (f.settingsFields record) key := by
  cases f with
  | commandR =>
    obtain ⟨e, _, hextra⟩ := ok_of_bind_eq_ok hextra
    obtain ⟨more, hmore, rfl⟩ := CommandR.of_additional (Fault.ok_of_ofConversion hextra)
    have hmessage : key ≠ "message" := fun h => hkey ⟨rfl, .inl h⟩
    have hhistory : key ≠ "chat_history" := fun h => hkey ⟨rfl, .inr (.inl h)⟩
    rw [List.append_assoc, List.cons_append, List.cons_append, List.nil_append, Object.value?_cons,
      if_neg hmessage, Object.value?_cons, if_neg hhistory, Object.value?_append]
    obtain rfl | ⟨hnone, joined, rfl⟩ := CommandR.preamble_cases hmore
    · rw [show Object.value? [] key = none from rfl, Option.or_none]
      rfl
    · have hpreamble : key ≠ "preamble" := by
        rintro rfl
        rw [CommandR.value?_sharedFields_preamble hread, Option.map_eq_none_iff] at hnone
        exact hkey ⟨rfl, .inr (.inr ⟨rfl, hnone⟩)⟩
      rw [Object.value?_cons, if_neg hpreamble, show Object.value? [] key = none from rfl,
        Option.or_none]
      rfl
  | _ =>
    obtain rfl := Except.ok.inj hextra
    rfl

theorem value?_settingsFields {f : ChatFormat} {turns : List Turn} {extra : Object} {key : String}
    {v : Value} (hread : f.schema.read settings = .ok record)
    (hextra : f.additional turns record = .ok extra) (hkey : ¬ f.FromHistory settings key)
    (hv : Object.value? extra key = some v) :
    Object.value? (f.settingsFields record) key = some v :=
  (value?_additional hread hextra hkey).symm.trans hv

/-- A text body and a converse request made from the same settings give the same sampling
parameters, and the settings that the additional fields hold are in the text body as well. -/
theorem paths_agree_on_settings (f : ChatFormat) (modelId : String) (prompt : Value)
    (turns : List Turn) (settings : Settings) {body request : Object}
    (hbody : f.adapter.textRequest modelId prompt settings = .ok body)
    (hrequest : f.adapter.converseRequest modelId turns settings = .ok request) :
    ∃ inference extra,
      Object.value? request "inferenceConfig" = some (.object inference) ∧
      Object.value? request "additionalModelRequestFields" = some (.object extra) ∧
      (f.textNames modelId).read (f.samplingPart body) = SamplingNames.converse.read inference ∧
      ∀ key v, Object.value? extra key = some v → ¬ f.FromHistory settings key →
        Object.value? body key = some v := by
  obtain ⟨record, extra, t, hread, hextra, _, rfl⟩ := of_converseRequest hrequest
  obtain ⟨made, hmade, htells⟩ := exists_body_tells modelId prompt hread
  rw [textRequest_eq, hmade] at hbody
  obtain rfl := Except.ok.inj hbody
  refine ⟨f.inference record, extra, rfl, rfl, ?_, ?_⟩
  · rw [htells.sampling, read_inference]
  · intro key v hv hkey
    exact htells.fields key v (value?_settingsFields hread hextra hkey hv)

/-- A preamble and a stop list that settings give, next to a seed of another kind. -/
def statedSettings : Settings :=
  some [("preamble", .text "Be kind."), ("stop_sequences", .list [.text "END"]),
    ("max_tokens", .int 40), ("seed", .text "seven")]

theorem paths_agree_on_stop_list : ∃ body request,
    commandR.adapter.textRequest "cohere.command-r-v1:0" (.text "Hi") statedSettings = .ok body ∧
    commandR.adapter.converseRequest "cohere.command-r-v1:0"
      [.message (.make (.text "user") (.text "Hi"))] statedSettings = .ok request ∧
    ∃ inference extra,
      Object.value? request "inferenceConfig" = some (.object inference) ∧
      Object.value? request "additionalModelRequestFields" = some (.object extra) ∧
      (SamplingNames.converse.read inference).stop = some (.list [.text "END"]) ∧
      Object.value? body "stop_sequences" = some (.list [.text "END"]) ∧
      Object.value? extra "preamble" = some (.text "Be kind.") ∧
      Object.value? body "preamble" = some (.text "Be kind.") := by
  refine ⟨_, _, rfl, rfl, ?_⟩
  obtain ⟨inference, extra, hinference, hextra, hsampling, hfields⟩ :=
    paths_agree_on_settings commandR "cohere.command-r-v1:0" (.text "Hi")
      [.message (.make (.text "user") (.text "Hi"))] statedSettings rfl rfl
  refine ⟨inference, extra, hinference, hextra, ?_, rfl, ?_, ?_⟩
  · rw [← hsampling]
    rfl
  · cases hextra
    rfl
  · refine hfields "preamble" _ ?_ ?_
    · cases hextra
      rfl
    · rintro ⟨_, h | h | ⟨_, h⟩⟩
      · exact absurd h (by decide)
      · exact absurd h (by decide)
      · cases h

end ChatFormat
end ModelGateway
