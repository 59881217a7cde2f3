import ModelGateway.Proofs.Chat.Format
import ModelGateway.Proofs.Json.Plain

/-!
# What requests are made of

A request is made of what its adapter is given, of constants, and of settings that have been
converted. A property that passes between a list or an object and what stands in it therefore holds
of every request once it holds of the prompt, the conversation and the settings. Two such properties
matter: that JSON has a form for a value, and that a value is read back from that form.
-/
namespace ModelGateway

/-- A value that nothing stands in. -/
def Value.isSimple : Value → Bool
  | .null | .bool _ | .int _ | .float _ | .text _ => true
  | .list items => items.isEmpty
  | .tuple _ | .object _ | .message .. => false

def Object.All (P : Value → Prop) (o : Object) : Prop := ∀ m ∈ o, P m.2

/-- A property of values that comes with what stands in them. -/
structure Hereditary (P : Value → Prop) : Prop where
  simple : ∀ v : Value, v.isSimple = true → P v
  list_iff : ∀ items, P (.list items) ↔ ∀ v ∈ items, P v
  item_of_tuple : ∀ items, P (.tuple items) → ∀ v ∈ items, P v
  object : ∀ o : Object, (o.map Prod.fst).Nodup → o.All P → P (.object o)
  all_of_object : ∀ o : Object, P (.object o) → o.All P

namespace Json

theorem canWriteItems_iff (items : List Value) :
    canWriteItems items = true ↔ ∀ v ∈ items, canWrite v = true := by
  induction items with
  | nil => simp [canWriteItems]
  | cons v vs ih => rw [canWriteItems, Bool.and_eq_true, ih, List.forall_mem_cons]

theorem canWriteMembers_iff (o : Object) :
    canWriteMembers o = true ↔ ∀ m ∈ o, canWrite m.2 = true := by
  induction o with
  | nil => simp [canWriteMembers]
  | cons m rest ih => rw [canWriteMembers, Bool.and_eq_true, ih, List.forall_mem_cons]

theorem hereditary_canWrite : Hereditary fun v => canWrite v = true where
  simple v h := by
    cases v with
    | list items =>
      obtain rfl := List.isEmpty_iff.mp h
      rfl
    | null | bool | int | float | text => rfl
    | tuple | object | message => cases h
  list_iff items := by rw [canWrite, canWriteItems_iff]
  item_of_tuple items h := by rwa [canWrite, canWriteItems_iff] at h
  object o _ h := by rwa [canWrite, canWriteMembers_iff]
  all_of_object o h := by rwa [canWrite, canWriteMembers_iff] at h

theorem hereditary_isPlain : Hereditary fun v => isPlain v = true where
  simple v h := by
    cases v with
    | list items =>
      obtain rfl := List.isEmpty_iff.mp h
      rfl
    | null | bool | int | float | text => rfl
    | tuple | object | message => cases h
  list_iff items := by rw [isPlain, arePlainItems_iff]
  item_of_tuple items h := nomatch h
  object o hkeys h := (isPlain_object_iff o).mpr ⟨hkeys, h⟩
  all_of_object o h := ((isPlain_object_iff o).mp h).2

end Json

def Settings.All (P : Value → Prop) (settings : Settings) : Prop :=
  ∀ o, settings = some o → P (.object o)

variable {P : Value → Prop}

theorem Settings.All.none : Settings.All P none := nofun

namespace Object.All

variable {o other : Object}

theorem nil : All P [] := nofun

theorem cons {key : String} {v : Value} (hv : P v) (h : All P o) : All P ((key, v) :: o) :=
  List.forall_mem_cons.mpr ⟨hv, h⟩

theorem append (h : All P o) (hother : All P other) : All P (o ++ other) :=
  List.forall_mem_append.mpr ⟨h, hother⟩

theorem dropNull (h : All P o) : All P (Object.dropNull o) := fun m hm =>
  h m (List.mem_filter.mp hm).1

theorem of_value? (h : All P o) {key : String} {v : Value} (hv : Object.value? o key = some v) :
    P v :=
  h _ (Object.mem_of_value? hv)

theorem fields {field : String → Value} (h : ∀ name, P (field name)) (names : List String) :
    All P (names.map fun name => (name, field name)) := by
  intro m hm
  obtain ⟨name, _, rfl⟩ := List.mem_map.mp hm
  exact h name

end Object.All

namespace Hereditary

variable {o record : Object} {settings : Settings}

/-- What is missing counts as null, so every member that is asked for has the property. -/
theorem value (hP : Hereditary P) (h : Object.All P o) (key : String) : P (Object.value o key) := by
  unfold Object.value
  cases hv : Object.value? o key with
  | none => exact hP.simple .null rfl
  | some v => exact h.of_value? hv

theorem dropNull (hP : Hereditary P) (hkeys : (o.map Prod.fst).Nodup) (h : Object.All P o) :
    P (.object (Object.dropNull o)) :=
  hP.object _ (Object.dropNull_keys_nodup hkeys) h.dropNull

/-- A double has the property whatever it was converted from. -/
theorem toFloat (hP : Hereditary P) {v w : Value} (h : v.toFloat.map .float = .ok w) : P w := by
  cases hx : v.toFloat with
  | error c =>
    rw [hx] at h
    cases h
  | ok x =>
    rw [hx] at h
    rw [← Except.ok.inj h]
    exact hP.simple (.float x) rfl

theorem convert (hP : Hereditary P) {kind : Kind} {v w : Value} (hv : P v)
    (h : kind.convert v = .ok w) : P w := by
  cases kind with
  | float => exact hP.toFloat h
  | _ =>
    cases v with
    | tuple items =>
      rw [← Except.ok.inj h]
      exact (hP.list_iff items).mpr (hP.item_of_tuple items hv)
    | _ => rwa [← Except.ok.inj h]

theorem read_field (hP : Hereditary P) {field : Field} {v : Value} (hsettings : settings.All P)
    (hdefault : P field.default) (h : field.read settings = .ok v) : P v := by
  unfold Field.read at h
  split at h
  · rwa [← Except.ok.inj h]
  · rcases settings.resolve_cases field.key field.default field.kind with hr | ⟨w, hw, _, hr⟩
    · rw [hr] at h
      rwa [← Except.ok.inj h]
    · obtain ⟨o, rfl, hw⟩ := Option.bind_eq_some_iff.mp hw
      rw [hr] at h
      exact hP.convert ((hP.all_of_object o (hsettings o rfl)).of_value? hw) h

/-- A settings record holds defaults and converted settings. -/
theorem read (hP : Hereditary P) {schema : Schema} (hsettings : settings.All P)
    (hdefaults : ∀ field ∈ schema, field.default.isSimple = true)
    (h : schema.read settings = .ok record) : Object.All P record := by
  induction schema generalizing record with
  | nil =>
    obtain rfl := Except.ok.inj h
    exact .nil
  | cons field rest ih =>
    obtain ⟨hfield, hrest⟩ := List.forall_mem_cons.mp hdefaults
    obtain ⟨v, others, hv, hothers, rfl⟩ := Schema.read_cons_eq_ok h
    exact .cons (hP.read_field hsettings (hP.simple _ hfield) hv) (ih hrest hothers)

end Hereditary

/-- That every request of an adapter has a property when what it is made of has it. -/
structure Adapter.Keeps (P : Value → Prop) (a : Adapter) : Prop where
  text : ∀ modelId prompt settings payload, P prompt → Settings.All P settings →
    a.textRequest modelId prompt settings = .ok payload → P (.object payload)
  converse : ∀ modelId turns settings request, (∀ t ∈ turns, P (Turn.toMessage t).content) →
    Settings.All P settings → a.converseRequest modelId turns settings = .ok request →
    P (.object request)
  embedding : ∀ modelId text payload, P text → a.embeddingRequest modelId text = .ok payload →
    P (.object payload)
  image : ∀ modelId description width height settings payload, P description → P width →
    P height → Settings.All P settings →
    a.imageRequest modelId description width height settings = .ok payload → P (.object payload)

/-! ## Conversations -/

section
variable {messages : List Message}

theorem Transcript.all_of_ofMessages {t : Transcript} (hmessages : ∀ m ∈ messages, P m.content)
    (h : ofMessages messages = .ok t) : (∀ v ∈ t.system, P v) ∧ ∀ u ∈ t.spoken, P u.content := by
  induction messages generalizing t with
  | nil =>
    obtain rfl := Except.ok.inj h
    exact ⟨nofun, nofun⟩
  | cons m rest ih =>
    obtain ⟨hm, hrest⟩ := List.forall_mem_cons.mp hmessages
    rw [ofMessages] at h
    split at h
    · cases hothers : ofMessages rest with
      | error e =>
        rw [hothers] at h
        cases h
      | ok others =>
        rw [hothers] at h
        obtain rfl := Except.ok.inj h
        obtain ⟨hsystem, hspoken⟩ := ih hrest hothers
        exact ⟨List.forall_mem_cons.mpr ⟨hm, hsystem⟩, hspoken⟩
    · obtain ⟨speaker, _, h⟩ := ok_of_bind_eq_ok h
      obtain ⟨others, hothers, h⟩ := ok_of_bind_eq_ok h
      obtain rfl := Except.ok.inj h
      obtain ⟨hsystem, hspoken⟩ := ih hrest hothers
      exact ⟨hsystem, List.forall_mem_cons.mpr ⟨hm, hspoken⟩⟩

namespace CommandR

theorem all_of_utterances {said : List Utterance} (hmessages : ∀ m ∈ messages, P m.content)
    (h : utterances messages = .ok said) : ∀ u ∈ said, P u.content := by
  induction messages generalizing said with
  | nil =>
    obtain rfl := Except.ok.inj h
    nofun
  | cons m rest ih =>
    obtain ⟨hm, hrest⟩ := List.forall_mem_cons.mp hmessages
    obtain ⟨speaker, _, h⟩ := ok_of_bind_eq_ok h
    obtain ⟨others, hothers, h⟩ := ok_of_bind_eq_ok h
    obtain rfl := Except.ok.inj h
    exact List.forall_mem_cons.mpr ⟨hm, ih hrest hothers⟩

theorem Exchange.all_of_ofTurns (hempty : P (.text "")) {turns : List Turn} {e : Exchange}
    (hturns : ∀ t ∈ turns, P t.toMessage.content) (h : ofTurns turns = .ok e) :
    P e.message ∧ ∀ u ∈ e.history, P u.content := by
  unfold ofTurns at h
  dsimp only at h
  have hspoken : ∀ m ∈ (turns.map Turn.toMessage).filter fun m => !m.isSystem, P m.content := by
    intro m hm
    obtain ⟨t, ht, rfl⟩ := List.mem_map.mp (List.mem_filter.mp hm).1
    exact hturns t ht
  generalize (turns.map Turn.toMessage).filter (fun m => !m.isSystem) = spoken at h hspoken
  cases hlast : spoken.getLast? with
  | none =>
    rw [hlast] at h
    obtain rfl := Except.ok.inj h
    exact ⟨hempty, nofun⟩
  | some last =>
    rw [hlast] at h
    obtain ⟨speaker, _, h⟩ := ok_of_bind_eq_ok h
    cases speaker with
    | user =>
      obtain ⟨said, hsaid, h⟩ := ok_of_bind_eq_ok h
      obtain rfl := Except.ok.inj h
      exact ⟨hspoken last (List.mem_of_getLast? hlast),
        all_of_utterances (fun m hm => hspoken m (List.dropLast_subset _ hm)) hsaid⟩
    | assistant =>
      obtain ⟨said, hsaid, h⟩ := ok_of_bind_eq_ok h
      obtain rfl := Except.ok.inj h
      exact ⟨hempty, all_of_utterances hspoken hsaid⟩

theorem additional_all (hP : Hereditary P) {e : Exchange} {record extra : Object}
    (hmessage : P e.message) (hhistory : ∀ u ∈ e.history, P u.content)
    (hrecord : Object.All P record) (h : additional e record = .ok extra) : P (.object extra) := by
  obtain ⟨more, hmore, rfl⟩ := of_additional h
  have hentries : P (.list (e.history.map historyEntry)) := by
    refine (hP.list_iff _).mpr (List.forall_mem_map.mpr fun u hu => ?_)
    exact hP.object _ (show ["role", "message"].Nodup by decide)
      (.cons (hP.simple _ rfl) (.cons (hhistory u hu) .nil))
  have hshared : Object.All P (sharedFields record) :=
    (Object.All.fields (hP.value hrecord) sharedNames).dropNull
  have hkeys : ("message" :: "chat_history" :: sharedNames).Nodup := by decide
  have hfields : ("message" :: "chat_history" :: (sharedFields record).map Prod.fst).Nodup :=
    hkeys.sublist (((sharedFields_keys record).cons_cons _).cons_cons _)
  obtain rfl | ⟨hnone, joined, rfl⟩ := preamble_cases hmore
  · rw [List.append_nil]
    exact hP.object _ hfields (.cons hmessage (.cons hentries hshared))
  -- A preamble is put at the end only if the shared fields have none, so no key comes twice.
  · refine hP.object _ ?_
      ((Object.All.cons hmessage (.cons hentries hshared)).append (.cons (hP.simple _ rfl) .nil))
    rw [List.map_append]
    refine List.nodup_append.mpr ⟨hfields, List.nodup_cons.mpr ⟨List.not_mem_nil, .nil⟩, ?_⟩
    intro key hkey other hother heq
    rw [heq, List.mem_singleton.mp hother] at hkey
    have hfresh := Object.value?_eq_none_iff.mp hnone
    simp [hfresh] at hkey

end CommandR
end

namespace ChatFormat

variable {f : ChatFormat} {settings : Settings} {record : Object}

theorem inference_all (hP : Hereditary P) (f : ChatFormat) (hrecord : Object.All P record) :
    P (.object (f.inference record)) := by
  have hvalue := hP.value hrecord
  refine hP.dropNull (show ["temperature", "topP", "maxTokens", "stopSequences"].Nodup by decide) ?_
  cases f with
  | llama =>
    exact .cons (hvalue _) (.cons (hvalue _) (.cons (hvalue _)
      (.cons (hP.simple .null rfl) .nil)))
  | _ => exact .cons (hvalue _) (.cons (hvalue _) (.cons (hvalue _) (.cons (hvalue _) .nil)))

theorem additional_all (hP : Hereditary P) {turns : List Turn} {extra : Object}
    (hturns : ∀ t ∈ turns, P t.toMessage.content) (hrecord : Object.All P record)
    (h : f.additional turns record = .ok extra) : P (.object extra) := by
  have hvalue := hP.value hrecord
  cases f with
  | commandR =>
    obtain ⟨e, he, h⟩ := ok_of_bind_eq_ok h
    obtain ⟨hmessage, hhistory⟩ :=
      CommandR.Exchange.all_of_ofTurns (hP.simple (.text "") rfl) hturns (Fault.ok_of_ofGateway he)
    exact CommandR.additional_all hP hmessage hhistory hrecord (Fault.ok_of_ofConversion h)
  | mistral =>
    obtain rfl := Except.ok.inj h
    exact hP.dropNull (show ["top_k"].Nodup by decide) (.cons (hvalue _) .nil)
  | jamba =>
    obtain rfl := Except.ok.inj h
    exact hP.dropNull (show ["n", "frequency_penalty", "presence_penalty"].Nodup by decide)
      (.fields hvalue _)
  | _ =>
    obtain rfl := Except.ok.inj h
    exact hP.object [] List.nodup_nil .nil

theorem tools_all (hP : Hereditary P) {modelId : String} {tools : Object}
    (hrecord : Object.All P record) (h : f.tools modelId record = some tools) :
    P (.object tools) := by
  have hvalue := hP.value hrecord
  cases f with
  | claude =>
    change Claude.toolConfig modelId record = some tools at h
    unfold Claude.toolConfig at h
    dsimp only at h
    split at h
    · obtain rfl := Option.some.inj h
      exact hP.dropNull (show ["tools", "toolChoice"].Nodup by decide)
        (.cons (hvalue _) (.cons (hvalue _) .nil))
    · cases h
  | _ => cases h

theorem default_isSimple (f : ChatFormat) :
    ∀ field ∈ f.schema, field.default.isSimple = true := by
  cases f <;> decide

theorem converseRequest_all (hP : Hereditary P) (f : ChatFormat) {modelId : String}
    {turns : List Turn} {request : Object} (hturns : ∀ t ∈ turns, P t.toMessage.content) (hsettings : settings.All P)
    (h : f.adapter.converseRequest modelId turns settings = .ok request) : P (.object request) := by
  obtain ⟨record, extra, t, hread, hextra, ht, rfl⟩ := of_converseRequest h
  have hrecord := hP.read hsettings f.default_isSimple hread
  obtain ⟨hsystem, hspoken⟩ :=
    Transcript.all_of_ofMessages (List.forall_mem_map.mpr hturns)
      (show Transcript.ofMessages (turns.map Turn.toMessage) = .ok t from ht)
  have htext : ∀ v, P v → P (.object [("text", v)]) := fun v hv =>
    hP.object _ (show ["text"].Nodup by decide) (.cons hv .nil)
  have hmessages : P (.list t.converseMessages) := by
    refine (hP.list_iff _).mpr (List.forall_mem_map.mpr fun u hu => ?_)
    refine hP.object _ (show ["role", "content"].Nodup by decide)
      (.cons (hP.simple _ rfl) (.cons ?_ .nil))
    exact (hP.list_iff _).mpr (List.forall_mem_singleton.mpr (htext _ (hspoken u hu)))
  have hblocks : P (.list t.converseSystem) :=
    (hP.list_iff _).mpr (List.forall_mem_map.mpr fun v hv => htext v (hsystem v hv))
  have hparts : Object.All P [("modelId", .text modelId), ("messages", .list t.converseMessages),
      ("system", .list t.converseSystem), ("inferenceConfig", .object (f.inference record)),
      ("additionalModelRequestFields", .object extra)] :=
    .cons (hP.simple _ rfl) (.cons hmessages (.cons hblocks (.cons (inference_all hP f hrecord)
      (.cons (additional_all hP hturns hrecord hextra) .nil))))
  cases htools : f.tools modelId record with
  | none =>
    exact hP.object _ (show ["modelId", "messages", "system", "inferenceConfig",
      "additionalModelRequestFields"].Nodup by decide) hparts
  | some tools =>
    exact hP.object _ (show ["modelId", "messages", "system", "inferenceConfig",
      "additionalModelRequestFields", "toolConfig"].Nodup by decide)
      (hparts.append (.cons (tools_all hP hrecord htools) .nil))

end ChatFormat

/-! ## The adapters -/

section
variable {prompt : Value} {settings : Settings} {payload : Object}

theorem Titan.textRequest_all (hP : Hereditary P) (hprompt : P prompt) (hsettings : settings.All P)
    (h : textRequest prompt settings = .ok payload) : P (.object payload) := by
  obtain ⟨record, hread, h⟩ := ok_of_bind_eq_ok h
  obtain rfl := Except.ok.inj h
  have hvalue := hP.value (hP.read hsettings ChatFormat.titan.default_isSimple hread)
  refine hP.object _ (show ["inputText", "textGenerationConfig"].Nodup by decide)
    (.cons hprompt (.cons ?_ .nil))
  exact hP.object _
    (show ["temperature", "topP", "maxTokenCount", "stopSequences"].Nodup by decide)
    (.cons (hvalue _) (.cons (hvalue _) (.cons (hvalue _) (.cons (hvalue _) .nil))))

theorem Llama.textRequest_all (hP : Hereditary P) (hprompt : P prompt) (hsettings : settings.All P)
    (h : textRequest prompt settings = .ok payload) : P (.object payload) := by
  obtain ⟨record, hread, h⟩ := ok_of_bind_eq_ok h
  obtain rfl := Except.ok.inj h
  have hvalue := hP.value (hP.read hsettings ChatFormat.llama.default_isSimple hread)
  exact hP.object _ (show ["prompt", "temperature", "top_p", "max_gen_len"].Nodup by decide)
    (.cons hprompt (.cons (hvalue _) (.cons (hvalue _) (.cons (hvalue _) .nil))))

theorem Claude.textRequest_all (hP : Hereditary P) {modelId : String} (hprompt : P prompt)
    (hsettings : settings.All P) (h : textRequest modelId prompt settings = .ok payload) :
    P (.object payload) := by
  obtain ⟨record, hread, h⟩ := ok_of_bind_eq_ok h
  have hvalue := hP.value (hP.read hsettings ChatFormat.claude.default_isSimple hread)
  have hcommon : Object.All P [("temperature", Object.value record "temperature"),
      ("top_p", Object.value record "top_p"), ("top_k", Object.value record "top_k"),
      ("stop_sequences", Object.value record "stop_sequences")] :=
    .cons (hvalue _) (.cons (hvalue _) (.cons (hvalue _) (.cons (hvalue _) .nil)))
  split at h
  · obtain rfl := Except.ok.inj h
    have hblock : P (.object [("type", .text "text"), ("text", prompt)]) :=
      hP.object _ (show ["type", "text"].Nodup by decide)
        (.cons (hP.simple _ rfl) (.cons hprompt .nil))
    have hmessage : P (.object [("role", .text "user"), ("content",
        .list [.object [("type", .text "text"), ("text", prompt)]])]) :=
      hP.object _ (show ["role", "content"].Nodup by decide) (.cons (hP.simple _ rfl)
        (.cons ((hP.list_iff _).mpr (List.forall_mem_singleton.mpr hblock)) .nil))
    exact hP.dropNull (show ["anthropic_version", "max_tokens", "messages", "temperature", "top_p",
      "top_k", "stop_sequences"].Nodup by decide) (.cons (hP.simple _ rfl) (.cons (hvalue _)
        (.cons ((hP.list_iff _).mpr (List.forall_mem_singleton.mpr hmessage)) hcommon)))
  · obtain rfl := Except.ok.inj h
    exact hP.dropNull (show ["prompt", "max_tokens_to_sample", "temperature", "top_p", "top_k",
      "stop_sequences"].Nodup by decide) (.cons (hP.simple _ rfl) (.cons (hvalue _) hcommon))

theorem CommandR.textRequest_all (hP : Hereditary P) (hprompt : P prompt)
    (hsettings : settings.All P) (h : textRequest prompt settings = .ok payload) :
    P (.object payload) := by
  obtain ⟨record, hread, h⟩ := ok_of_bind_eq_ok h
  obtain rfl := Except.ok.inj h
  have hvalue := hP.value (hP.read hsettings ChatFormat.commandR.default_isSimple hread)
  have hkeys : (["message", "temperature", "p", "max_tokens"] ++ sharedNames).Nodup := by decide
  refine hP.object _ ?_ (Object.All.append (.cons hprompt (.cons (hvalue _) (.cons (hvalue _)
    (.cons (hvalue _) .nil)))) (Object.All.fields hvalue sharedNames).dropNull)
  rw [List.map_append]
  exact hkeys.sublist (.append (.refl _) (sharedFields_keys record))

theorem Mistral.textRequest_all (hP : Hereditary P) (hprompt : P prompt)
    (hsettings : settings.All P) (h : textRequest prompt settings = .ok payload) :
    P (.object payload) := by
  obtain ⟨record, hread, h⟩ := ok_of_bind_eq_ok h
  obtain rfl := Except.ok.inj h
  have hvalue := hP.value (hP.read hsettings ChatFormat.mistral.default_isSimple hread)
  exact hP.dropNull
    (show ["prompt", "max_tokens", "temperature", "top_p", "top_k", "stop"].Nodup by decide)
    (.cons hprompt (.cons (hvalue _) (.cons (hvalue _) (.cons (hvalue _) (.cons (hvalue _)
      (.cons (hvalue _) .nil))))))

theorem Jamba.textRequest_all (hP : Hereditary P) (hprompt : P prompt) (hsettings : settings.All P)
    (h : textRequest prompt settings = .ok payload) : P (.object payload) := by
  obtain ⟨record, hread, h⟩ := ok_of_bind_eq_ok h
  obtain rfl := Except.ok.inj h
  have hvalue := hP.value (hP.read hsettings ChatFormat.jamba.default_isSimple hread)
  have hmessage : P (.object [("role", .text "user"), ("content", prompt)]) :=
    hP.object _ (show ["role", "content"].Nodup by decide)
      (.cons (hP.simple _ rfl) (.cons hprompt .nil))
  rw [additional, ← Object.dropNull_append]
  exact hP.dropNull (show ["messages", "temperature", "top_p", "max_tokens", "stop", "n",
    "frequency_penalty", "presence_penalty"].Nodup by decide) (Object.All.append
      (.cons ((hP.list_iff _).mpr (List.forall_mem_singleton.mpr hmessage)) (.cons (hvalue _)
        (.cons (hvalue _) (.cons (hvalue _) (.cons (hvalue _) .nil))))) (.fields hvalue _))

theorem Jurassic.penalty_all (hP : Hereditary P) {v : Value} (hv : P v) : P (penalty v) := by
  unfold penalty
  split
  · split
    · exact hP.dropNull (show penaltyKeys.Nodup by decide)
        (.fields (hP.value (hP.all_of_object _ hv)) _)
    · exact hP.simple .null rfl
  · exact hP.simple .null rfl

theorem Jurassic.textRequest_all (hP : Hereditary P) (hprompt : P prompt)
    (hsettings : settings.All P) (h : textRequest prompt settings = .ok payload) :
    P (.object payload) := by
  obtain ⟨record, hread, h⟩ := ok_of_bind_eq_ok h
  obtain rfl := Except.ok.inj h
  have hdefaults : ∀ field ∈ schema, field.default.isSimple = true := by decide
  have hvalue := hP.value (hP.read hsettings hdefaults hread)
  have hpenalty := fun name => penalty_all hP (hvalue name)
  exact hP.dropNull (show ["prompt", "temperature", "topP", "maxTokens", "stopSequences",
    "countPenalty", "presencePenalty", "frequencyPenalty"].Nodup by decide)
    (.cons hprompt (.cons (hvalue _) (.cons (hvalue _) (.cons (hvalue _) (.cons (hvalue _)
      (.cons (hpenalty _) (.cons (hpenalty _) (.cons (hpenalty _) .nil))))))))

end

namespace StableDiffusion

theorem promptEntry_all (hP : Hereditary P) {text weight : Value} (htext : P text)
    (hweight : P weight) : P (.object (promptEntry text weight)) :=
  hP.dropNull (show ["text", "weight"].Nodup by decide) (.cons htext (.cons hweight .nil))

/-- A weight of an extra prompt is a double or unset, whatever was given. -/
theorem promptWeight_all (hP : Hereditary P) {given weight : Value}
    (h : promptWeight given = .ok weight) : P weight := by
  unfold promptWeight at h
  split at h
  · exact hP.toFloat h
  · rw [← Except.ok.inj h]
    exact hP.simple .null rfl

/-- Further prompts are entries, each with a text and with the double that its weight became. -/
theorem exists_of_mem_extraPrompts {items : List Value} {extras : List Object}
    (h : extraPrompts items = .ok extras) {entry : Object} (hentry : entry ∈ extras) :
    ∃ text given weight, promptWeight given = .ok weight ∧ entry = promptEntry (.text text) weight := by
  obtain ⟨⟨text, given⟩, _, hmade⟩ := exists_of_mem_mapM h hentry
  obtain ⟨weight, hweight, hmade⟩ := ok_of_bind_eq_ok hmade
  exact ⟨text, given, weight, hweight, (Except.ok.inj hmade).symm⟩

theorem extraPrompts_all (hP : Hereditary P) {items : List Value} {extras : List Object}
    (h : extraPrompts items = .ok extras) : ∀ entry ∈ extras, P (.object entry) := by
  intro entry hentry
  obtain ⟨text, given, weight, hweight, rfl⟩ := exists_of_mem_extraPrompts h hentry
  exact promptEntry_all hP (hP.simple _ rfl) (promptWeight_all hP hweight)

theorem imageRequest_all (hP : Hereditary P) {description width height : Value}
    {settings : Settings} {payload : Object} (hdescription : P description) (hwidth : P width)
    (hheight : P height) (hsettings : settings.All P)
    (h : imageRequest description width height settings = .ok payload) : P (.object payload) := by
  obtain ⟨record, hread, h⟩ := ok_of_bind_eq_ok h
  obtain ⟨items, _, h⟩ := ok_of_bind_eq_ok h
  obtain ⟨extras, hextras, h⟩ := ok_of_bind_eq_ok h
  obtain rfl := Except.ok.inj h
  have hdefaults : ∀ field ∈ schema, field.default.isSimple = true := by decide
  have hvalue := hP.value (hP.read hsettings hdefaults hread)
  have hprompts : P (.list ((promptEntry description (Object.value record "weight") :: extras).map
      .object)) := by
    refine (hP.list_iff _).mpr (List.forall_mem_map.mpr (List.forall_mem_cons.mpr ⟨?_, ?_⟩))
    · exact promptEntry_all hP hdescription (hvalue _)
    · exact extraPrompts_all hP hextras
  exact hP.dropNull (show ("text_prompts" :: "height" :: "width" :: plainNames).Nodup by decide)
    (.cons hprompts (.cons hheight (.cons hwidth (.fields hvalue plainNames))))

end StableDiffusion

theorem Titan.embeddingRequest_all (hP : Hereditary P) (modelId : String) {text : Value}
    (htext : P text) : P (.object (embeddingRequest modelId text)) := by
  unfold embeddingRequest
  split
  · exact hP.object _ (show ["inputText"].Nodup by decide) (.cons htext .nil)
  · exact hP.object _ (show ["inputText", "dimensions", "normalize"].Nodup by decide)
      (.cons htext (.cons (hP.simple _ rfl) (.cons (hP.simple _ rfl) .nil)))

theorem ChatFormat.keeps (hP : Hereditary P) (f : ChatFormat) : f.adapter.Keeps P where
  text modelId prompt settings payload hprompt hsettings h := by
    rw [textRequest_eq] at h
    have hbody := Fault.ok_of_ofConversion h
    cases f with
    | titan => exact Titan.textRequest_all hP hprompt hsettings hbody
    | claude => exact Claude.textRequest_all hP hprompt hsettings hbody
    | commandR => exact CommandR.textRequest_all hP hprompt hsettings hbody
    | llama => exact Llama.textRequest_all hP hprompt hsettings hbody
    | mistral => exact Mistral.textRequest_all hP hprompt hsettings hbody
    | jamba => exact Jamba.textRequest_all hP hprompt hsettings hbody
  converse _ _ _ _ hturns hsettings h := ChatFormat.converseRequest_all hP f hturns hsettings h
  embedding modelId text payload htext h := by
    cases f with
    | titan =>
      obtain rfl := Except.ok.inj h
      exact Titan.embeddingRequest_all hP modelId htext
    | _ => cases h
  image modelId description width height settings payload _ _ _ _ h := by
    cases f <;> cases h

theorem Jurassic.keeps (hP : Hereditary P) : Jurassic.adapter.Keeps P where
  text _ _ _ _ hprompt hsettings h :=
    textRequest_all hP hprompt hsettings (Fault.ok_of_ofConversion h)
  converse := nofun
  embedding := nofun
  image := nofun

theorem CohereEmbed.keeps (hP : Hereditary P) : CohereEmbed.adapter.Keeps P where
  text := nofun
  converse := nofun
  embedding _ _ _ htext h := by
    obtain rfl := Except.ok.inj h
    exact hP.object _ (show ["texts", "input_type", "truncate"].Nodup by decide)
      (.cons ((hP.list_iff _).mpr (List.forall_mem_singleton.mpr htext))
        (.cons (hP.simple _ rfl) (.cons (hP.simple _ rfl) .nil)))
  image := nofun

theorem StableDiffusion.keeps (hP : Hereditary P) : StableDiffusion.adapter.Keeps P where
  text := nofun
  converse := nofun
  embedding := nofun
  image _ _ _ _ _ _ hdescription hwidth hheight hsettings h :=
    imageRequest_all hP hdescription hwidth hheight hsettings (Fault.ok_of_ofConversion h)

/-- The standard adapters add nothing to a request that the property does not hold of. -/
theorem Adapter.keeps_of_standard (hP : Hereditary P) {a : Adapter}
    (h : a ∈ standardRoutes.map Route.adapter) : a.Keeps P := by
  rcases cases_of_standard h with ⟨f, rfl⟩ | rfl | rfl | rfl
  · exact f.keeps hP
  · exact Jurassic.keeps hP
  · exact CohereEmbed.keeps hP
  · exact StableDiffusion.keeps hP

end ModelGateway
