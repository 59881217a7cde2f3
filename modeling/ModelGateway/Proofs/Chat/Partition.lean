import ModelGateway.Proofs.Chat.Format

/-!
# A request splits its conversation by roles

Every format puts what is spoken into one list and the system texts into another, each in the order
of the conversation, and refuses a conversation with any other role. The two lists depend on nothing
but the conversation, and the parts that come from the settings depend on nothing but the settings:
of two conversations Command R's additional fields differ only where they hold the conversation.
-/
namespace ModelGateway

namespace Turn

/-- The role that a turn states, without surrounding blanks and in lowercase. -/
def statedRole : Turn → String
  | message m => Text.lower (Text.strip m.role)
  | described o => Text.lower (Text.strip (Object.value o "role").displayOrEmpty)

def statedContent : Turn → Value
  | message m => m.content
  | described o => .text (Object.value o "content").displayOrEmpty

/-- The message of a turn that is spoken, with one block of text. -/
def spokenBlock? (t : Turn) : Option Value :=
  if t.statedRole = "user" ∨ t.statedRole = "assistant" then
    some (.object [("role", .text t.statedRole),
      ("content", .list [.object [("text", t.statedContent)]])])
  else none

def systemBlock? (t : Turn) : Option Value :=
  if t.statedRole = "system" then some (.object [("text", t.statedContent)]) else none

variable {t : Turn}

theorem role_toMessage (h : t.Ordinary) : t.toMessage.role = t.statedRole := by
  cases t with
  | message m =>
    rw [← h.normal, normalizeRole, Value.displayOrEmpty_text]
    rfl
  | described o =>
    change normalizeRole (.text _) = _
    rw [normalizeRole, Value.displayOrEmpty_text]
    rfl

theorem content_toMessage (t : Turn) : t.toMessage.content = t.statedContent := by
  cases t <;> rfl

theorem spokenBlock?_eq (h : t.Ordinary) :
    t.toMessage.utterance?.map Utterance.toConverse = t.spokenBlock? := by
  unfold Message.utterance? spokenBlock? Speaker.ofName?
  rw [role_toMessage h, content_toMessage]
  by_cases huser : t.statedRole = "user"
  · simp [huser, Utterance.toConverse, Speaker.name]
  · by_cases hassistant : t.statedRole = "assistant"
    · simp [hassistant, Utterance.toConverse, Speaker.name]
    · simp [huser, hassistant]

section
variable {turns : List Turn}

theorem spokenBlocks_eq (h : ∀ t ∈ turns, t.Ordinary) :
    ((turns.map toMessage).filterMap Message.utterance?).map Utterance.toConverse =
      turns.filterMap spokenBlock? := by
  rw [List.filterMap_map, List.map_filterMap]
  apply List.filterMap_congr
  intro t ht
  exact spokenBlock?_eq (h t ht)

theorem systemBlocks_eq (h : ∀ t ∈ turns, t.Ordinary) :
    (systemContents (turns.map toMessage)).map (fun s => Value.object [("text", s)]) =
      turns.filterMap systemBlock? := by
  induction turns with
  | nil => rfl
  | cons t rest ih =>
    obtain ⟨ht, hrest⟩ := List.forall_mem_cons.mp h
    rw [List.map_cons, systemContents_cons, List.filterMap_cons, systemBlock?, ← ih hrest,
      Message.isSystem, role_toMessage ht, content_toMessage]
    by_cases hsystem : t.statedRole = "system"
    · rw [hsystem]
      rfl
    · rw [if_neg hsystem, if_neg (by simpa using hsystem)]

/-- Every turn is in one of the two lists, and none is in both. -/
theorem length_blocks (h : ∀ t ∈ turns, t.statedRole ∈ knownRoles) :
    (turns.filterMap spokenBlock?).length + (turns.filterMap systemBlock?).length =
      turns.length := by
  induction turns with
  | nil => rfl
  | cons t rest ih =>
    obtain ⟨ht, hrest⟩ := List.forall_mem_cons.mp h
    have hlength := ih hrest
    simp only [knownRoles, List.mem_cons, List.not_mem_nil, or_false] at ht
    rw [List.filterMap_cons, List.filterMap_cons, spokenBlock?, systemBlock?]
    rcases ht with hsystem | hspoken
    · simp [hsystem]
      omega
    · rw [if_pos hspoken, if_neg (by rcases hspoken with h | h <;> simp [h])]
      simp
      omega

end

end Turn

/-! ## What comes from the settings -/

def Object.without (o : Object) (keys : List String) : Object :=
  o.filter fun m => !keys.contains m.1

theorem Object.without_append (o other : Object) (keys : List String) :
    (o ++ other).without keys = o.without keys ++ other.without keys := List.filter_append _ _

namespace CommandR

/-- The additional fields that hold the conversation. The settings may give the last of them. -/
def historyKeys : List String := ["message", "chat_history", "preamble"]

theorem preamble_without {shared more : Object} {system : List Value}
    (h : preamble shared system = .ok more) : Object.without more historyKeys = [] := by
  obtain rfl | ⟨_, _, rfl⟩ := preamble_cases h <;> rfl

theorem additional_without {e : Exchange} {record extra : Object}
    (h : additional e record = .ok extra) :
    Object.without extra historyKeys = (sharedFields record).without historyKeys := by
  obtain ⟨more, hmore, rfl⟩ := of_additional h
  rw [Object.without_append, Object.without_append, preamble_without hmore, List.append_nil]
  rfl

end CommandR

namespace ChatFormat

/-- The additional fields that hold the conversation. -/
def historyKeys : ChatFormat → List String
  | commandR => CommandR.historyKeys
  | _ => []

/-- Apart from the conversation the additional fields come from the settings. -/
theorem additional_without {f : ChatFormat} {turns turns' : List Turn} {record extra extra' : Object}
    (h : f.additional turns record = .ok extra) (h' : f.additional turns' record = .ok extra') :
    Object.without extra f.historyKeys = Object.without extra' f.historyKeys := by
  cases f with
  | commandR =>
    obtain ⟨e, _, h⟩ := ok_of_bind_eq_ok h
    obtain ⟨e', _, h'⟩ := ok_of_bind_eq_ok h'
    exact (CommandR.additional_without (Fault.ok_of_ofConversion h)).trans
      (CommandR.additional_without (Fault.ok_of_ofConversion h')).symm
  | _ =>
    obtain rfl := Except.ok.inj h
    obtain rfl := Except.ok.inj h'
    rfl

/-- That two requests agree on everything that comes from the settings. -/
structure AgreeOnSettings (f : ChatFormat) (request request' : Object) : Prop where
  inference : Object.value? request "inferenceConfig" = Object.value? request' "inferenceConfig"
  tools : Object.value? request "toolConfig" = Object.value? request' "toolConfig"
  additional : ∃ extra extra',
    Object.value? request "additionalModelRequestFields" = some (.object extra) ∧
    Object.value? request' "additionalModelRequestFields" = some (.object extra') ∧
    Object.without extra f.historyKeys = Object.without extra' f.historyKeys

/-- That a request holds a conversation: what is spoken in one list and the system texts in another,
each in order, and nothing left out. -/
structure SplitsByRole (turns : List Turn) (request : Object) : Prop where
  messages : Object.value? request "messages" = some (.list (turns.filterMap Turn.spokenBlock?))
  system : Object.value? request "system" = some (.list (turns.filterMap Turn.systemBlock?))
  complete : (turns.filterMap Turn.spokenBlock?).length +
    (turns.filterMap Turn.systemBlock?).length = turns.length

/-- That an outcome is the error for invalid parameters. -/
def RefusedAsInvalid {α : Type} (outcome : Except Fault α) : Prop :=
  ∃ e, outcome = .error (.gateway e) ∧ e.kind = .invalidParameter

variable {f : ChatFormat} {turns : List Turn} {settings : Settings} {record : Object}

/-- With settings that can be read, what becomes of a conversation depends on its roles alone. -/
theorem encoded_or_refused (modelId : String) (hread : f.schema.read settings = .ok record)
    (hturns : ∀ t ∈ turns, t.Ordinary) :
    ((∀ t ∈ turns, t.statedRole ∈ knownRoles) ∧ ∃ request extra,
      f.adapter.converseRequest modelId turns settings = .ok request ∧ SplitsByRole turns request ∧
      f.additional turns record = .ok extra ∧
      Object.value? request "additionalModelRequestFields" = some (.object extra) ∧
      Object.value? request "inferenceConfig" = some (.object (f.inference record)) ∧
      Object.value? request "toolConfig" = (f.tools modelId record).map .object) ∨
    ((∃ t ∈ turns, t.statedRole ∉ knownRoles) ∧
      ∃ given, f.adapter.converseRequest modelId turns settings =
        .error (.gateway (.invalidParameter (.role given)))) := by
  have hrole : ∀ t ∈ turns, t.toMessage.role = t.statedRole := fun t ht =>
    Turn.role_toMessage (hturns t ht)
  by_cases hknown : ∀ t ∈ turns, t.statedRole ∈ knownRoles
  · have hmessages : ∀ m ∈ turns.map Turn.toMessage, m.role ∈ knownRoles := by
      intro m hm
      obtain ⟨t, ht, rfl⟩ := List.mem_map.mp hm
      exact hrole t ht ▸ hknown t ht
    obtain ⟨extra, hextra, hrequest⟩ := converseRequest_of_known modelId hread hturns hmessages
    refine .inl ⟨hknown, _, extra, hrequest, ⟨?_, ?_, Turn.length_blocks hknown⟩, hextra, rfl, rfl,
      ?_⟩
    · rw [← Turn.spokenBlocks_eq hturns]
      rfl
    · rw [← Turn.systemBlocks_eq hturns]
      rfl
    · cases f.tools modelId record <;> rfl
  · obtain ⟨t, ht, hno⟩ : ∃ t ∈ turns, t.statedRole ∉ knownRoles := by
      simpa only [not_forall, exists_prop] using hknown
    refine .inr ⟨⟨t, ht, hno⟩, converseRequest_of_unknown modelId hread hturns ?_⟩
    exact ⟨t.toMessage, List.mem_map_of_mem ht, hrole t ht ▸ hno⟩

/-- With settings that can be read every format refuses the conversations in which a role has no
place, and splits all others into the same two lists. What comes from the settings is alike in the
requests of any two conversations. -/
theorem request_splits_by_role (f : ChatFormat) (modelId : String) (settings : Settings)
    (hread : ∃ record, f.schema.read settings = .ok record) :
    (∀ turns, (∀ t ∈ turns, t.Ordinary) →
      (RefusedAsInvalid (f.adapter.converseRequest modelId turns settings) ↔
        ∃ t ∈ turns, t.statedRole ∉ knownRoles) ∧
      ((∀ t ∈ turns, t.statedRole ∈ knownRoles) → ∃ request,
        f.adapter.converseRequest modelId turns settings = .ok request ∧
          SplitsByRole turns request)) ∧
    ∀ turns turns' request request', (∀ t ∈ turns, t.Ordinary) → (∀ t ∈ turns', t.Ordinary) →
      f.adapter.converseRequest modelId turns settings = .ok request →
      f.adapter.converseRequest modelId turns' settings = .ok request' →
      f.AgreeOnSettings request request' := by
  obtain ⟨record, hread⟩ := hread
  constructor
  · intro turns hturns
    rcases encoded_or_refused modelId hread hturns with
      ⟨hknown, request, _, hrequest, hsplits, _⟩ | ⟨⟨t, ht, hno⟩, given, hrefused⟩
    · rw [hrequest]
      refine ⟨⟨?_, ?_⟩, fun _ => ⟨request, rfl, hsplits⟩⟩
      · rintro ⟨e, he, _⟩
        cases he
      · rintro ⟨t, ht, hno⟩
        exact absurd (hknown t ht) hno
    · rw [hrefused]
      refine ⟨⟨fun _ => ⟨t, ht, hno⟩, fun _ => ⟨_, rfl, rfl⟩⟩, ?_⟩
      exact fun hknown => absurd (hknown t ht) hno
  · intro turns turns' request request' hturns hturns' hrequest hrequest'
    rcases encoded_or_refused modelId hread hturns with
      ⟨_, made, extra, hmade, _, hextra, hfields, hinference, htools⟩ | ⟨_, _, hrefused⟩
    · rcases encoded_or_refused modelId hread hturns' with
        ⟨_, made', extra', hmade', _, hextra', hfields', hinference', htools'⟩ | ⟨_, _, hrefused⟩
      · obtain rfl := Except.ok.inj (hrequest.symm.trans hmade)
        obtain rfl := Except.ok.inj (hrequest'.symm.trans hmade')
        exact ⟨hinference.trans hinference'.symm, htools.trans htools'.symm, extra, extra', hfields,
          hfields', additional_without hextra hextra'⟩
      · cases hrefused.symm.trans hrequest'
    · cases hrefused.symm.trans hrequest

/-- A conversation that starts with a system text and ends with the assistant. -/
def greeting : List Turn :=
  [.described [("role", .text " System "), ("content", .text "Be brief.")],
   .message (.make (.text "user") (.text "Hi")),
   .described [("content", .text "Hello"), ("role", .text "ASSISTANT")]]

/-- Two settings of their kinds, and one of another kind. -/
def briefSettings : Settings :=
  some [("preamble", .text "Be kind."), ("seed", .int 7), ("temperature", .text "high")]

theorem greeting_splits_by_role :
    (∃ record, commandR.schema.read briefSettings = .ok record) ∧ (∀ t ∈ greeting, t.Ordinary) ∧
    (∀ t ∈ greeting, t.statedRole ∈ knownRoles) ∧ ∃ request request',
      commandR.adapter.converseRequest "cohere.command-r-v1:0" greeting briefSettings =
        .ok request ∧
      commandR.adapter.converseRequest "cohere.command-r-v1:0" [] briefSettings = .ok request' ∧
      SplitsByRole greeting request ∧ commandR.AgreeOnSettings request request' := by
  have hread : ∃ record, commandR.schema.read briefSettings = .ok record := ⟨_, rfl⟩
  have hturns : ∀ t ∈ greeting, t.Ordinary := by
    unfold greeting
    simp only [List.forall_mem_cons]
    exact ⟨trivial, ⟨_, _, rfl⟩, trivial, nofun⟩
  have hknown : ∀ t ∈ greeting, t.statedRole ∈ knownRoles := by decide
  obtain ⟨hsplits, hagree⟩ :=
    request_splits_by_role commandR "cohere.command-r-v1:0" briefSettings hread
  obtain ⟨request, hrequest, hgreeting⟩ := (hsplits greeting hturns).2 hknown
  obtain ⟨request', hrequest', _⟩ := (hsplits [] nofun).2 nofun
  exact ⟨hread, hturns, hknown, request, request', hrequest, hrequest', hgreeting,
    hagree greeting [] request request' hturns nofun hrequest hrequest'⟩

end ChatFormat
end ModelGateway
