import ModelGateway.Proofs.Chat.Sampling
import ModelGateway.Proofs.Payload
import ModelGateway.Proofs.Settings.Penalty
import ModelGateway.Proofs.Settings.Restated

/-!
# Unset settings stay out of requests

A setting without a default of its own is sent when the settings give a value of its kind, whatever
that value is, and otherwise it is left out. Most encoders drop the nulls of an object made of named
members; the others put nothing null into it. So every object that an encoder fills is what is left of
some members without their nulls, and a setting among these members is decided by its field alone.
-/
namespace ModelGateway

/-- That nothing in an object is null. -/
def Object.NoNull (o : Object) : Prop := o.All (· ≠ .null)

theorem Object.noNull_dropNull (o : Object) : (dropNull o).NoNull := by
  intro m hm
  have hkept := (List.mem_filter.mp hm).2
  rw [Bool.not_eq_true'] at hkept
  exact Value.isNull_eq_false_iff.mp hkept

theorem Object.dropNull_of_noNull {o : Object} (h : o.NoNull) : dropNull o = o := by
  refine List.filter_eq_self.mpr fun m hm => ?_
  rw [Value.isNull_eq_false_iff.mpr (h m hm)]
  rfl

theorem Object.append_dropNull {front : Object} (h : front.NoNull) (o : Object) :
    front ++ dropNull o = dropNull (front ++ o) := by
  rw [dropNull_append, dropNull_of_noNull h]

/-- That what is found in a request is a setting as it was given: something is found exactly when a
value of the field's kind is given, falsy or not, and then it is what that value is held as. -/
structure Field.ShownAs (field : Field) (settings : Settings) (found : Option Value) : Prop where
  isSome_iff : found.isSome = true ↔ ∃ v, settings.given? field.key = some v ∧ field.kind.Of v
  held : ∀ w, found = some w → ∃ v, settings.given? field.key = some v ∧ field.kind.Takes v w

/-- An optional field, where nulls are dropped, is shown as it was given. -/
theorem Field.Holds.shownAs {field : Field} {settings : Settings} {w : Value}
    (hdefault : field.default = .null) (h : field.Holds settings w) :
    field.ShownAs settings ((some w).filter fun v => !v.isNull) := by
  cases h with
  | @given v w hgiven htaken =>
    rw [Option.filter_some, Value.isNull_eq_false_iff.mpr htaken.ne_null, Bool.not_false, if_pos rfl]
    refine ⟨⟨fun _ => ⟨v, hgiven, .inl ⟨w, htaken⟩⟩, fun _ => rfl⟩, ?_⟩
    rintro w' ⟨⟩
    exact ⟨v, hgiven, htaken⟩
  | absent hgiven =>
    rw [hdefault]
    refine ⟨⟨nofun, ?_⟩, nofun⟩
    rintro ⟨v, hv, _⟩
    cases hgiven.symm.trans hv
  | passedOver hgiven hnot =>
    rw [hdefault]
    refine ⟨⟨nofun, ?_⟩, nofun⟩
    rintro ⟨v, hv, hof⟩
    exact absurd (Option.some.inj (hgiven.symm.trans hv) ▸ hof) hnot

/-- A member that a record gives for an optional field is shown as it was given, once the nulls among
the members are dropped. -/
theorem Schema.WellFormed.shownAs_of_mem {schema : Schema} {settings : Settings}
    {record members : Object} {field : Field} {key : String} (hschema : schema.WellFormed)
    (hread : schema.read settings = .ok record) (hfield : field ∈ schema)
    (hdefault : field.default = .null) (hkeys : (members.map Prod.fst).Nodup)
    (hmember : (key, Object.value record field.name) ∈ members) :
    field.ShownAs settings (Object.value? (Object.dropNull members) key) := by
  rw [Object.value?_dropNull hkeys, Object.value?_of_mem hkeys hmember]
  exact (hschema.holds hread hfield).shownAs hdefault

theorem Schema.value_ne_null {schema : Schema} {settings : Settings} {record : Object}
    (hread : schema.read settings = .ok record) (name : String) {field : Field}
    (hfield : schema.find? (fun field => field.name == name) = some field)
    (hdefault : field.default.isNull = false) : Object.value record name ≠ .null :=
  Value.isNull_eq_false_iff.mp (value_not_null hread name hfield hdefault)

/-! ## Text bodies -/

namespace ChatFormat

variable {f : ChatFormat} {modelId : String} {settings : Settings} {record : Object}

theorem schema_wellFormed (f : ChatFormat) : f.schema.WellFormed :=
  wellFormed_of_standard f.schema_standard

/-- The keys of settings that text bodies leave to converse requests. -/
def toolKeys : ChatFormat → List String
  | claude => ["tools", "tool_choice"]
  | _ => []

/-- That a text body has nothing null in it, and shows every optional setting under its key. -/
structure TextShows (f : ChatFormat) (settings : Settings) (body : Object) : Prop where
  noNull : body.NoNull
  config : f = titan → ∃ config,
    Object.value? body "textGenerationConfig" = some (.object config) ∧ Object.NoNull config
  shown : ∀ field ∈ f.schema, field.default = .null → field.key ∉ f.toolKeys →
    field.ShownAs settings (Object.value? body field.key)

/-- That a text body is what is left of some members without their nulls, and that every optional
setting is one of these members. -/
inductive TextMembers (f : ChatFormat) (settings : Settings) (body : Object) : Prop where
  | intro (record members : Object) (hread : f.schema.read settings = .ok record)
      (hbody : body = Object.dropNull members) (hkeys : (members.map Prod.fst).Nodup)
      (hmem : ∀ field ∈ f.schema, field.default = .null → field.key ∉ f.toolKeys →
        (field.key, Object.value record field.name) ∈ members)

section
variable {prompt : Value} {body : Object}

theorem titan_members (hprompt : prompt ≠ .null) (h : Titan.textRequest prompt settings = .ok body) :
    titan.TextMembers settings body := by
  obtain ⟨record, hread, h⟩ := ok_of_bind_eq_ok h
  obtain rfl := Except.ok.inj h
  refine ⟨record, _, hread, (Object.dropNull_of_noNull ?_).symm,
    show ["inputText", "textGenerationConfig"].Nodup by decide, ?_⟩
  · exact .cons hprompt (.cons Value.noConfusion .nil)
  · simp [schema, Titan.schema, Field.inferred]

theorem claude_members (h : Claude.textRequest modelId prompt settings = .ok body) :
    claude.TextMembers settings body := by
  obtain ⟨record, hread, h⟩ := ok_of_bind_eq_ok h
  dsimp only at h
  split at h
  · obtain rfl := Except.ok.inj h
    refine ⟨record, _, hread, rfl, show ["anthropic_version", "max_tokens", "messages",
      "temperature", "top_p", "top_k", "stop_sequences"].Nodup by decide, ?_⟩
    simp [schema, Claude.schema, Field.inferred, Field.unset, toolKeys, Claude.sampling]
  · obtain rfl := Except.ok.inj h
    refine ⟨record, _, hread, rfl, show ["prompt", "max_tokens_to_sample", "temperature", "top_p",
      "top_k", "stop_sequences"].Nodup by decide, ?_⟩
    simp [schema, Claude.schema, Field.inferred, Field.unset, toolKeys, Claude.sampling]

theorem commandR_members (hprompt : prompt ≠ .null)
    (h : CommandR.textRequest prompt settings = .ok body) : commandR.TextMembers settings body := by
  obtain ⟨record, hread, h⟩ := ok_of_bind_eq_ok h
  obtain rfl := Except.ok.inj h
  -- What stands in front of the shared fields is never null, so nothing is lost in dropping it too.
  have hfront : Object.NoNull [("message", prompt),
      ("temperature", Object.value record "temperature"), ("p", Object.value record "p"),
      ("max_tokens", Object.value record "max_tokens")] :=
    .cons hprompt (.cons (Schema.value_ne_null hread "temperature" rfl rfl)
      (.cons (Schema.value_ne_null hread "p" rfl rfl)
        (.cons (Schema.value_ne_null hread "max_tokens" rfl rfl) .nil)))
  refine ⟨record, _, hread, Object.append_dropNull hfront _,
    show (["message", "temperature", "p", "max_tokens"] ++ CommandR.sharedNames).Nodup by decide, ?_⟩
  simp [schema, CommandR.schema, Field.inferred, Field.unset, CommandR.sharedNames]

theorem llama_members (hprompt : prompt ≠ .null) (h : Llama.textRequest prompt settings = .ok body) :
    llama.TextMembers settings body := by
  obtain ⟨record, hread, h⟩ := ok_of_bind_eq_ok h
  obtain rfl := Except.ok.inj h
  refine ⟨record, _, hread, (Object.dropNull_of_noNull ?_).symm,
    show ["prompt", "temperature", "top_p", "max_gen_len"].Nodup by decide, ?_⟩
  · exact .cons hprompt (.cons (Schema.value_ne_null hread "temperature" rfl rfl)
      (.cons (Schema.value_ne_null hread "top_p" rfl rfl)
        (.cons (Schema.value_ne_null hread "max_gen_len" rfl rfl) .nil)))
  · simp [schema, Llama.schema, Field.inferred]

theorem mistral_members (h : Mistral.textRequest prompt settings = .ok body) :
    mistral.TextMembers settings body := by
  obtain ⟨record, hread, h⟩ := ok_of_bind_eq_ok h
  obtain rfl := Except.ok.inj h
  refine ⟨record, _, hread, rfl, show ["prompt", "max_tokens", "temperature", "top_p", "top_k",
    "stop"].Nodup by decide, ?_⟩
  simp [schema, Mistral.schema, Field.inferred, Field.unset, Mistral.sampling]

theorem jamba_members (h : Jamba.textRequest prompt settings = .ok body) :
    jamba.TextMembers settings body := by
  obtain ⟨record, hread, h⟩ := ok_of_bind_eq_ok h
  obtain rfl := Except.ok.inj h
  refine ⟨record, _ ++ _, hread, (Object.dropNull_append _ _).symm, show ["messages", "temperature",
    "top_p", "max_tokens", "stop", "n", "frequency_penalty", "presence_penalty"].Nodup by decide, ?_⟩
  simp [schema, Jamba.schema, Field.inferred, Field.unset, Jamba.sampling]

theorem textMembers (hprompt : prompt ≠ .null)
    (h : f.textBody modelId prompt settings = .ok body) : f.TextMembers settings body := by
  cases f with
  | titan => exact titan_members hprompt h
  | claude => exact claude_members h
  | commandR => exact commandR_members hprompt h
  | llama => exact llama_members hprompt h
  | mistral => exact mistral_members h
  | jamba => exact jamba_members h

theorem titan_config (h : Titan.textRequest prompt settings = .ok body) : ∃ config,
    Object.value? body "textGenerationConfig" = some (.object config) ∧ Object.NoNull config := by
  obtain ⟨record, hread, h⟩ := ok_of_bind_eq_ok h
  obtain rfl := Except.ok.inj h
  refine ⟨_, rfl, ?_⟩
  exact .cons (Schema.value_ne_null hread "temperature" rfl rfl)
    (.cons (Schema.value_ne_null hread "top_p" rfl rfl)
      (.cons (Schema.value_ne_null hread "max_token_count" rfl rfl)
        (.cons (Schema.value_ne_null hread "stop_sequences" rfl rfl) .nil)))

theorem textShows (hprompt : prompt ≠ .null)
    (h : f.adapter.textRequest modelId prompt settings = .ok body) : f.TextShows settings body := by
  rw [textRequest_eq] at h
  have hbody := Fault.ok_of_ofConversion h
  obtain ⟨record, members, hread, rfl, hkeys, hmem⟩ := textMembers hprompt hbody
  refine ⟨Object.noNull_dropNull members, ?_, fun field hfield hdefault hkey => ?_⟩
  · rintro rfl
    exact titan_config hbody
  · exact f.schema_wellFormed.shownAs_of_mem hread hfield hdefault hkeys
      (hmem field hfield hdefault hkey)

end

/-! ## Converse requests -/

/-- The keys of settings that become tools, or stand in for a preamble made of the conversation. -/
def apartKeys : ChatFormat → List String
  | claude => ["tools", "tool_choice"]
  | commandR => ["preamble"]
  | _ => []

/-- Where a converse request shows an optional setting: in which of its parts, and under which key. A
stop list is one of the sampling parameters; Command R has its own among the additional fields too. -/
def places (f : ChatFormat) (key : String) : List (String × String) :=
  let stop := ("inferenceConfig", "stopSequences")
  let additional := ("additionalModelRequestFields", key)
  match f with
  | commandR => if key = "stop_sequences" then [stop, additional] else [additional]
  | claude => [stop]
  | _ => if key = "stop" then [stop] else [additional]

/-- That a converse request has nothing null in it or in its parts, unless a message says null, and
shows every optional setting in its places. -/
structure ConverseShows (f : ChatFormat) (turns : List Turn) (settings : Settings)
    (request : Object) : Prop where
  noNull : request.NoNull
  inference : ∃ inference, Object.value? request "inferenceConfig" = some (.object inference) ∧
    Object.NoNull inference
  additional : ∃ extra, Object.value? request "additionalModelRequestFields" = some (.object extra) ∧
    ((∀ t ∈ turns, t.toMessage.content ≠ .null) → Object.NoNull extra)
  tools : ∀ v, Object.value? request "toolConfig" = some v →
    ∃ tools, v = .object tools ∧ Object.NoNull tools
  shown : ∀ field ∈ f.schema, field.default = .null → field.key ∉ f.apartKeys →
    ∀ place ∈ f.places field.key, ∃ part, Object.value? request place.1 = some (.object part) ∧
      field.ShownAs settings (Object.value? part place.2)

theorem inference_shown {field : Field} (hread : f.schema.read settings = .ok record)
    (hfield : field ∈ f.schema) (hdefault : field.default = .null) (hkey : field.key ∉ f.apartKeys)
    (hplace : ("inferenceConfig", "stopSequences") ∈ f.places field.key) :
    field.ShownAs settings (Object.value? (f.inference record) "stopSequences") := by
  refine f.schema_wellFormed.shownAs_of_mem hread hfield hdefault
    (show ["temperature", "topP", "maxTokens", "stopSequences"].Nodup by decide) ?_
  revert field
  cases f with
  | titan => simp [schema, Titan.schema, Field.inferred]
  | claude =>
    simp [schema, Claude.schema, Field.inferred, Field.unset, apartKeys, sampling, Claude.sampling]
  | commandR =>
    simp [schema, CommandR.schema, Field.inferred, Field.unset, places, sampling, CommandR.sampling]
  | llama => simp [schema, Llama.schema, Field.inferred]
  | mistral =>
    simp [schema, Mistral.schema, Field.inferred, Field.unset, places, sampling, Mistral.sampling]
  | jamba =>
    simp [schema, Jamba.schema, Field.inferred, Field.unset, places, sampling, Jamba.sampling]

/-- Of these members the fields that the settings give are left, once the nulls are dropped. -/
theorem exists_settingsMembers (f : ChatFormat) (record : Object) :
    ∃ members, f.settingsFields record = Object.dropNull members ∧ (members.map Prod.fst).Nodup ∧
      ∀ field ∈ f.schema, field.default = .null →
        ("additionalModelRequestFields", field.key) ∈ f.places field.key →
        (field.key, Object.value record field.name) ∈ members := by
  cases f with
  | titan => exact ⟨[], rfl, .nil, by simp [schema, Titan.schema, Field.inferred]⟩
  | claude => exact ⟨[], rfl, .nil, by simp [places]⟩
  | commandR =>
    refine ⟨_, rfl, show CommandR.sharedNames.Nodup by decide, ?_⟩
    simp [schema, CommandR.schema, Field.inferred, Field.unset, CommandR.sharedNames]
  | llama => exact ⟨[], rfl, .nil, by simp [schema, Llama.schema, Field.inferred]⟩
  | mistral =>
    refine ⟨_, rfl, show ["top_k"].Nodup by decide, ?_⟩
    simp [schema, Mistral.schema, Field.inferred, Field.unset, places]
  | jamba =>
    refine ⟨_, rfl, show ["n", "frequency_penalty", "presence_penalty"].Nodup by decide, ?_⟩
    simp [schema, Jamba.schema, Field.inferred, Field.unset, places]

theorem not_fromHistory {field : Field} (hfield : field ∈ f.schema)
    (hkey : field.key ∉ f.apartKeys) : ¬ f.FromHistory settings field.key := by
  rintro ⟨rfl, hmessage | hhistory | ⟨hpreamble, _⟩⟩
  · exact absurd hmessage ((by decide : ∀ field ∈ CommandR.schema, field.key ≠ "message") _ hfield)
  · exact absurd hhistory
      ((by decide : ∀ field ∈ CommandR.schema, field.key ≠ "chat_history") _ hfield)
  · exact hkey (List.mem_singleton.mpr hpreamble)

theorem additional_shown {turns : List Turn} {extra : Object} {field : Field}
    (hread : f.schema.read settings = .ok record) (hextra : f.additional turns record = .ok extra)
    (hfield : field ∈ f.schema) (hdefault : field.default = .null) (hkey : field.key ∉ f.apartKeys)
    (hplace : ("additionalModelRequestFields", field.key) ∈ f.places field.key) :
    field.ShownAs settings (Object.value? extra field.key) := by
  obtain ⟨members, hmembers, hkeys, hmem⟩ := f.exists_settingsMembers record
  rw [value?_additional hread hextra (not_fromHistory hfield hkey), hmembers]
  exact f.schema_wellFormed.shownAs_of_mem hread hfield hdefault hkeys
    (hmem field hfield hdefault hplace)

theorem eq_of_mem_places {key : String} {place : String × String} (h : place ∈ f.places key) :
    place = ("inferenceConfig", "stopSequences") ∨
      place = ("additionalModelRequestFields", key) := by
  have hplaces : f.places key ⊆
      [("inferenceConfig", "stopSequences"), ("additionalModelRequestFields", key)] := by
    cases f with
    | claude => simp [places]
    | _ =>
      unfold places
      dsimp only
      split <;> simp
  simpa using hplaces h

theorem additional_noNull {turns : List Turn} {extra : Object}
    (hturns : ∀ t ∈ turns, t.toMessage.content ≠ .null)
    (h : f.additional turns record = .ok extra) : Object.NoNull extra := by
  cases f with
  | commandR =>
    obtain ⟨e, he, h⟩ := ok_of_bind_eq_ok h
    obtain ⟨more, hmore, rfl⟩ := CommandR.of_additional (Fault.ok_of_ofConversion h)
    have hmessage := (CommandR.Exchange.all_of_ofTurns (P := (· ≠ .null)) nofun hturns
      (Fault.ok_of_ofGateway he)).1
    refine .append (.append (.cons hmessage (.cons Value.noConfusion .nil))
      (Object.noNull_dropNull _)) ?_
    obtain rfl | ⟨_, joined, rfl⟩ := CommandR.preamble_cases hmore
    · exact .nil
    · exact .cons Value.noConfusion .nil
  | mistral =>
    obtain rfl := Except.ok.inj h
    exact Object.noNull_dropNull _
  | jamba =>
    obtain rfl := Except.ok.inj h
    exact Object.noNull_dropNull _
  | _ =>
    obtain rfl := Except.ok.inj h
    exact .nil

theorem tools_noNull {tools : Object} (h : f.tools modelId record = some tools) :
    Object.NoNull tools := by
  cases f with
  | claude =>
    change Claude.toolConfig modelId record = some tools at h
    unfold Claude.toolConfig at h
    dsimp only at h
    split at h
    · obtain rfl := Option.some.inj h
      exact Object.noNull_dropNull _
    · cases h
  | _ => cases h

theorem converseShows {turns : List Turn} {request : Object}
    (h : f.adapter.converseRequest modelId turns settings = .ok request) :
    f.ConverseShows turns settings request := by
  obtain ⟨record, extra, t, hread, hextra, _, rfl⟩ := of_converseRequest h
  have hparts : Object.NoNull [("modelId", .text modelId), ("messages", .list t.converseMessages),
      ("system", .list t.converseSystem), ("inferenceConfig", .object (f.inference record)),
      ("additionalModelRequestFields", .object extra)] :=
    .cons Value.noConfusion (.cons Value.noConfusion (.cons Value.noConfusion
      (.cons Value.noConfusion (.cons Value.noConfusion .nil))))
  refine ⟨?_, ⟨_, rfl, Object.noNull_dropNull _⟩, ⟨extra, rfl, fun hturns =>
    additional_noNull hturns hextra⟩, ?_, fun field hfield hdefault hkey place hplace => ?_⟩
  · cases htools : f.tools modelId record with
    | none => exact hparts
    | some tools => exact hparts.append (.cons Value.noConfusion .nil)
  · intro v hv
    cases htools : f.tools modelId record with
    | none =>
      rw [htools] at hv
      cases hv
    | some tools =>
      rw [htools] at hv
      exact ⟨tools, (Option.some.inj hv).symm, tools_noNull htools⟩
  · obtain rfl | rfl := eq_of_mem_places hplace
    · exact ⟨_, rfl, inference_shown hread hfield hdefault hkey hplace⟩
    · exact ⟨_, rfl, additional_shown hread hextra hfield hdefault hkey hplace⟩

end ChatFormat

/-! ## Jurassic bodies -/

namespace Jurassic

/-- That a body, and every penalty in it, has nothing null in it. -/
structure TextShows (body : Object) : Prop where
  noNull : body.NoNull
  penalties : ∀ key ∈ penaltyNames, ∀ v, Object.value? body key = some v →
    ∃ sent, v = .object sent ∧ Object.NoNull sent

theorem penalty_cases (v : Value) :
    penalty v = .null ∨ ∃ sent, penalty v = .object sent ∧ Object.NoNull sent := by
  unfold penalty
  split
  · split
    · exact .inr ⟨_, rfl, Object.noNull_dropNull _⟩
    · exact .inl rfl
  · exact .inl rfl

theorem textShows {modelId : String} {prompt : Value} {settings : Settings} {body : Object}
    (h : adapter.textRequest modelId prompt settings = .ok body) : TextShows body := by
  obtain ⟨record, members, _, rfl, hkeys, hcount, hpresence, hfrequency⟩ :=
    of_textRequest (Fault.ok_of_ofConversion h)
  have hpenalty {key : String} {given : Value} (hmember : (key, penalty given) ∈ members) :
      ∀ v, Object.value? (Object.dropNull members) key = some v →
        ∃ sent, v = .object sent ∧ Object.NoNull sent := by
    intro v hv
    rw [Object.value?_dropNull hkeys, Object.value?_of_mem hkeys hmember] at hv
    rcases penalty_cases given with hnull | ⟨sent, hsent, hnoNull⟩
    · rw [hnull] at hv
      cases hv
    · rw [hsent] at hv
      exact ⟨sent, (Option.some.inj hv).symm, hnoNull⟩
  refine ⟨Object.noNull_dropNull _, fun key hkey => ?_⟩
  simp only [penaltyNames, List.mem_cons, List.not_mem_nil, or_false] at hkey
  rcases hkey with rfl | rfl | rfl
  · exact hpenalty hcount
  · exact hpenalty hpresence
  · exact hpenalty hfrequency

end Jurassic

/-! ## Stable Diffusion bodies -/

namespace StableDiffusion

/-- That a body, and every prompt in it, has nothing null in it, that the first prompt has the weight
of the settings, and that every other optional setting is shown under its key. -/
structure ImageShows (settings : Settings) (body : Object) : Prop where
  noNull : body.NoNull
  prompts : ∃ first others,
    Object.value? body "text_prompts" = some (.list ((first :: others).map .object)) ∧
    (∀ entry ∈ first :: others, Object.NoNull entry) ∧
    ∀ field ∈ schema, field.key = "weight" →
      field.ShownAs settings (Object.value? first "weight")
  shown : ∀ field ∈ schema, field.key ∉ ["weight", "text_prompts"] →
    field.ShownAs settings (Object.value? body field.key)

/-- The members of a body, before its nulls are dropped. -/
theorem of_imageRequest {description width height : Value} {settings : Settings} {body : Object}
    (h : imageRequest description width height settings = .ok body) :
    ∃ record items extras members, schema.read settings = .ok record ∧
      extraPrompts items = .ok extras ∧ body = Object.dropNull members ∧
      (members.map Prod.fst).Nodup ∧
      ("text_prompts", .list
        ((promptEntry description (Object.value record "weight") :: extras).map .object)) ∈ members ∧
      ∀ field ∈ schema, field.key ∉ ["weight", "text_prompts"] →
        (field.key, Object.value record field.name) ∈ members := by
  obtain ⟨record, hread, h⟩ := ok_of_bind_eq_ok h
  obtain ⟨items, _, h⟩ := ok_of_bind_eq_ok h
  obtain ⟨extras, hextras, h⟩ := ok_of_bind_eq_ok h
  refine ⟨record, items, extras, _, hread, hextras, (Except.ok.inj h).symm,
    show ("text_prompts" :: "height" :: "width" :: plainNames).Nodup by decide, .head _, ?_⟩
  simp [schema, Field.unset, plainNames]

theorem imageShows {modelId : String} {description width height : Value} {settings : Settings}
    {body : Object} (h : adapter.imageRequest modelId description width height settings = .ok body) :
    ImageShows settings body := by
  obtain ⟨record, items, extras, members, hread, hextras, rfl, hkeys, hprompts, hmem⟩ :=
    of_imageRequest (Fault.ok_of_ofConversion h)
  have hschema : schema.WellFormed := wellFormed_of_standard schema_standard
  have hunset : ∀ field ∈ schema, field.default = .null := by simp [schema, Field.unset]
  refine ⟨Object.noNull_dropNull _, ⟨promptEntry description (Object.value record "weight"), extras,
    ?_, ?_, ?_⟩, fun field hfield hkey => ?_⟩
  · rw [Object.value?_dropNull hkeys, Object.value?_of_mem hkeys hprompts]
    rfl
  · refine List.forall_mem_cons.mpr ⟨Object.noNull_dropNull _, fun entry hentry => ?_⟩
    obtain ⟨_, _, _, _, rfl⟩ := exists_of_mem_extraPrompts hextras hentry
    exact Object.noNull_dropNull _
  · intro field hfield hkey
    refine hschema.shownAs_of_mem hread hfield (hunset field hfield)
      (show ["text", "weight"].Nodup by decide) ?_
    revert field
    simp [schema, Field.unset]
  · exact hschema.shownAs_of_mem hread hfield (hunset field hfield) hkeys (hmem field hfield hkey)

end StableDiffusion

/-- Whatever an encoder makes of settings has nothing null in it, and has the optional settings that
the settings give, as they give them. -/
theorem unset_settings_stay_out (settings : Settings) :
    (∀ (f : ChatFormat) modelId prompt body,
      f.adapter.textRequest modelId (.text prompt) settings = .ok body →
      f.TextShows settings body) ∧
    (∀ (f : ChatFormat) modelId turns request,
      f.adapter.converseRequest modelId turns settings = .ok request →
      f.ConverseShows turns settings request) ∧
    (∀ modelId prompt body,
      Jurassic.adapter.textRequest modelId (.text prompt) settings = .ok body →
      Jurassic.TextShows body) ∧
    ∀ modelId (description : String) (width height : Int) body,
      StableDiffusion.adapter.imageRequest modelId (.text description) (.int width) (.int height)
        settings = .ok body →
      StableDiffusion.ImageShows settings body := by
  refine ⟨?_, ?_, ?_, ?_⟩
  · intro f modelId prompt body h
    exact ChatFormat.textShows Value.noConfusion h
  · intro f modelId turns request h
    exact ChatFormat.converseShows h
  · intro modelId prompt body h
    exact Jurassic.textShows h
  · intro modelId description width height body h
    exact StableDiffusion.imageShows h

/-- Optional settings that are falsy, next to tools and a sampler that are of other kinds. -/
def falsySettings : Settings :=
  some [("seed", .int 0), ("documents", .list []), ("preamble", .text ""),
    ("search_queries_only", .bool false), ("tools", .text "none"), ("weight", .float 0.0),
    ("sampler", .int 3), ("countPenalty", .object [("scale", .int 0), ("applyToNumbers", .null)])]

theorem falsy_settings_are_sent : ∃ body request penalized image,
    ChatFormat.commandR.adapter.textRequest "cohere.command-r-v1:0" (.text "Hi") falsySettings =
      .ok body ∧ ChatFormat.commandR.TextShows falsySettings body ∧
    ChatFormat.commandR.adapter.converseRequest "cohere.command-r-v1:0" [] falsySettings =
      .ok request ∧ ChatFormat.commandR.ConverseShows [] falsySettings request ∧
    Jurassic.adapter.textRequest "ai21.j2-mid-v1" (.text "Hi") falsySettings = .ok penalized ∧
    Jurassic.TextShows penalized ∧
    StableDiffusion.adapter.imageRequest "stability.stable-diffusion-xl-v1" (.text "Fog") (.int 64)
      (.int 64) falsySettings = .ok image ∧ StableDiffusion.ImageShows falsySettings image ∧
    Object.value? body "seed" = some (.int 0) ∧ Object.value? body "documents" = some (.list []) ∧
    Object.value? body "preamble" = some (.text "") ∧
    Object.value? body "search_queries_only" = some (.bool false) ∧
    Object.value? body "tools" = none ∧
    Object.value? penalized "countPenalty" = some (.object [("scale", .int 0)]) ∧
    Object.value? image "text_prompts" =
      some (.list [.object [("text", .text "Fog"), ("weight", .float 0.0)]]) ∧
    Object.value? image "seed" = some (.int 0) ∧ Object.value? image "sampler" = none := by
  obtain ⟨htext, hconverse, hjurassic, himage⟩ := unset_settings_stay_out falsySettings
  exact ⟨_, _, _, _, rfl, htext .commandR "cohere.command-r-v1:0" "Hi" _ rfl, rfl,
    hconverse .commandR "cohere.command-r-v1:0" [] _ rfl, rfl,
    hjurassic "ai21.j2-mid-v1" "Hi" _ rfl, rfl,
    himage "stability.stable-diffusion-xl-v1" "Fog" 64 64 _ rfl, rfl, rfl, rfl, rfl, rfl, rfl, rfl,
    rfl, rfl⟩

end ModelGateway
