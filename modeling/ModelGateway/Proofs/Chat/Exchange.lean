import ModelGateway.Family.CommandR
import ModelGateway.Proofs.Chat.Transcript
import ModelGateway.Proofs.Settings

/-!
# The two shapes of a Command R conversation

A converse request of this family holds a conversation in the converse format, and again as a
message, the turns before it and a preamble. The first is built from the transcript, the second from
a split of its own. Both are read back here, and they say the same.
-/
namespace ModelGateway

theorem Fault.ofConversion_bind {α β : Type} {outcome : Except Conversion α} {a : α}
    (h : outcome = .ok a) (next : α → Except Fault β) :
    (ofConversion outcome >>= next) = next a := by
  rw [h]
  rfl

theorem Fault.ofGateway_bind {α β : Type} {outcome : Except GatewayError α} {a : α}
    (h : outcome = .ok a) (next : α → Except Fault β) :
    (ofGateway outcome >>= next) = next a := by
  rw [h]
  rfl

theorem Fault.ok_of_ofConversion {α : Type} {outcome : Except Conversion α} {a : α}
    (h : ofConversion outcome = .ok a) : outcome = .ok a := by
  cases outcome with
  | error c => cases h
  | ok b => rw [Except.ok.inj h]

theorem Fault.ok_of_ofGateway {α : Type} {outcome : Except GatewayError α} {a : α}
    (h : ofGateway outcome = .ok a) : outcome = .ok a := by
  cases outcome with
  | error e => cases h
  | ok b => rw [Except.ok.inj h]

/-- The sampling parameters of a request are those that are set. -/
theorem Sampling.toConverse_eq {s : Sampling}
    (h : s.stop = .null ∨ ∃ items, s.stop = .list items) :
    s.toConverse = .ok (Object.dropNull [("temperature", s.temperature), ("topP", s.topP),
      ("maxTokens", s.maxTokens), ("stopSequences", s.stop)]) := by
  unfold toConverse
  rcases h with h | ⟨items, h⟩
  · rw [h]
    rfl
  · rw [h]
    rfl

theorem Value.toTexts_of_isText {texts : List Value} (h : ∀ v ∈ texts, ∃ s, v = .text s) :
    toTexts texts = .ok (texts.map display) := by
  induction texts with
  | nil => rfl
  | cons v rest ih =>
    obtain ⟨⟨s, rfl⟩, hrest⟩ := List.forall_mem_cons.mp h
    rw [toTexts, ih hrest]
    rfl

namespace Message

/-- That a message, with its role in the form in which roles are compared, is not the system's. -/
def Spoken (m : Message) : Prop := m.Normal ∧ m.isSystem = false

theorem Spoken.role_cases {m : Message} (h : m.Spoken) :
    (∃ speaker : Speaker, m.role = speaker.name ∧ Speaker.ofRole (.text m.role) = .ok speaker) ∨
      m.role ∉ knownRoles ∧
        Speaker.ofRole (.text m.role) = .error (.invalidParameter (.role m.role)) := by
  obtain ⟨hnormal, hspoken⟩ := h
  rcases Message.role_cases hnormal with hrole | hcases
  · rw [Message.isSystem_iff.mpr hrole] at hspoken
    cases hspoken
  · exact hcases

end Message

namespace CommandR

/-! ## The split -/

section
variable {messages : List Message}

theorem utterances_eq_spoken (h : ∀ m ∈ messages, m.Spoken) :
    utterances messages = (Transcript.ofMessages messages).map Transcript.spoken := by
  induction messages with
  | nil => rfl
  | cons m rest ih =>
    obtain ⟨hm, hrest⟩ := List.forall_mem_cons.mp h
    rw [utterances, Transcript.ofMessages, hm.2, ih hrest]
    cases Speaker.ofRole (.text m.role) with
    | error e => rfl
    | ok speaker => cases Transcript.ofMessages rest <;> rfl

theorem utterances_of_known (hspoken : ∀ m ∈ messages, m.Spoken)
    (hknown : ∀ m ∈ messages, m.role ∈ knownRoles) :
    utterances messages = .ok (messages.filterMap Message.utterance?) := by
  rw [utterances_eq_spoken hspoken,
    Transcript.ofMessages_of_known (fun m hm => (hspoken m hm).1) hknown]
  rfl

theorem utterances_of_unknown (hspoken : ∀ m ∈ messages, m.Spoken)
    (hunknown : ∃ m ∈ messages, m.role ∉ knownRoles) :
    ∃ given, utterances messages = .error (.invalidParameter (.role given)) := by
  obtain ⟨given, hgiven⟩ :=
    Transcript.ofMessages_of_unknown (fun m hm => (hspoken m hm).1) hunknown
  rw [utterances_eq_spoken hspoken, hgiven]
  exact ⟨given, rfl⟩

theorem spoken_of_mem_filter (hnormal : ∀ m ∈ messages, m.Normal) :
    ∀ m ∈ messages.filter fun m => !m.isSystem, m.Spoken := by
  intro m hm
  obtain ⟨hm, hsystem⟩ := List.mem_filter.mp hm
  exact ⟨hnormal m hm, by simpa using hsystem⟩

end

/-- That a split holds what is spoken: its message is the last turn if the user spoke it, and empty
otherwise. -/
def Exchange.Splits (e : Exchange) (spoken : List Utterance) : Prop :=
  if spoken.getLast?.map Utterance.speaker = some .user then
    spoken = e.history ++ [⟨.user, e.message⟩]
  else e.message = .text "" ∧ spoken = e.history

section
variable {turns : List Turn}

theorem Exchange.ofTurns_of_known (hnormal : ∀ m ∈ turns.map Turn.toMessage, m.Normal)
    (hknown : ∀ m ∈ turns.map Turn.toMessage, m.role ∈ knownRoles) :
    ∃ e, ofTurns turns = .ok e ∧ e.system = systemContents (turns.map Turn.toMessage) ∧
      e.Splits ((turns.map Turn.toMessage).filterMap Message.utterance?) := by
  have hspoken := spoken_of_mem_filter hnormal
  have hroles : ∀ m ∈ (turns.map Turn.toMessage).filter fun m => !m.isSystem,
      m.role ∈ knownRoles := by
    intro m hm
    exact hknown m (List.mem_filter.mp hm).1
  rw [← filterMap_utterance?_filter]
  unfold ofTurns
  dsimp only
  -- What follows holds of any spoken messages; where they come from no longer matters.
  generalize (turns.map Turn.toMessage).filter (fun m => !m.isSystem) = spoken at hspoken hroles ⊢
  have hall := utterances_of_known hspoken hroles
  cases hlast : spoken.getLast? with
  | none =>
    rw [List.getLast?_eq_none_iff.mp hlast]
    exact ⟨_, rfl, rfl, rfl, rfl⟩
  | some last =>
    obtain ⟨before, rfl⟩ := List.getLast?_eq_some_iff.mp hlast
    rcases (hspoken last (by simp)).role_cases with ⟨speaker, hrole, hok⟩ | ⟨hno, _⟩
    · have hsaid : (before ++ [last]).filterMap Message.utterance? =
          before.filterMap Message.utterance? ++ [⟨speaker, last.content⟩] := by
        rw [List.filterMap_append, List.filterMap_cons, Message.utterance?_of_speaker hrole]
        rfl
      have hearlier := utterances_of_known (List.forall_mem_append.mp hspoken).1
        (List.forall_mem_append.mp hroles).1
      dsimp only
      rw [hok, List.dropLast_concat, hearlier, hall, hsaid]
      cases speaker with
      | user => exact ⟨_, rfl, rfl, by simp [Splits]⟩
      | assistant => exact ⟨_, rfl, rfl, by simp [Splits]⟩
    · exact absurd (hroles last (by simp)) hno

/-- The role of the last turn is looked at first, but any turn without a place is refused. -/
theorem Exchange.ofTurns_of_unknown (hnormal : ∀ m ∈ turns.map Turn.toMessage, m.Normal)
    (hunknown : ∃ m ∈ turns.map Turn.toMessage, m.role ∉ knownRoles) :
    ∃ given, ofTurns turns = .error (.invalidParameter (.role given)) := by
  have hspoken := spoken_of_mem_filter hnormal
  have hodd : ∃ m ∈ (turns.map Turn.toMessage).filter fun m => !m.isSystem,
      m.role ∉ knownRoles := by
    obtain ⟨m, hm, hno⟩ := hunknown
    refine ⟨m, List.mem_filter.mpr ⟨hm, ?_⟩, hno⟩
    rw [Message.not_system_of_unknown hno]
    rfl
  unfold ofTurns
  dsimp only
  generalize (turns.map Turn.toMessage).filter (fun m => !m.isSystem) = spoken at hspoken hodd ⊢
  obtain ⟨given, hall⟩ := utterances_of_unknown hspoken hodd
  cases hlast : spoken.getLast? with
  | none =>
    rw [List.getLast?_eq_none_iff.mp hlast] at hodd
    obtain ⟨m, hm, _⟩ := hodd
    cases hm
  | some last =>
    obtain ⟨before, rfl⟩ := List.getLast?_eq_some_iff.mp hlast
    dsimp only
    rcases (hspoken last (by simp)).role_cases with ⟨speaker, hrole, hok⟩ | ⟨_, herror⟩
    · rw [hok, List.dropLast_concat, hall]
      cases speaker with
      | assistant => exact ⟨given, rfl⟩
      | user =>
        -- The last turn has a place, so the one without is in front of it, in the history.
        have hearlier : ∃ m ∈ before, m.role ∉ knownRoles := by
          obtain ⟨m, hm, hno⟩ := hodd
          rcases List.mem_append.mp hm with hm | hm
          · exact ⟨m, hm, hno⟩
          · rw [List.mem_singleton.mp hm] at hno
            exact absurd (Message.known_of_speaker hrole) hno
        obtain ⟨given, hgiven⟩ :=
          utterances_of_unknown (List.forall_mem_append.mp hspoken).1 hearlier
        rw [hgiven]
        exact ⟨given, rfl⟩
    · rw [herror]
      exact ⟨last.role, rfl⟩

end

/-- A message that stands where turns are spoken and has a speaker, or stands among the system
texts. -/
def Placed (m : Message) : Prop :=
  m.isSystem = true ∨ ∃ speaker, Speaker.ofRole (.text m.role) = .ok speaker

theorem ofMessages_of_placed {messages : List Message} (h : ∀ m ∈ messages, Placed m) :
    ∃ t, Transcript.ofMessages messages = .ok t := by
  induction messages with
  | nil => exact ⟨_, rfl⟩
  | cons m rest ih =>
    obtain ⟨hm, hrest⟩ := List.forall_mem_cons.mp h
    obtain ⟨t, ht⟩ := ih hrest
    rw [Transcript.ofMessages, ht]
    split
    · exact ⟨_, rfl⟩
    · rename_i hspoken
      obtain ⟨speaker, hspeaker⟩ := hm.resolve_left hspoken
      rw [hspeaker]
      exact ⟨_, rfl⟩

theorem placed_of_utterances {messages : List Message} {spoken : List Utterance}
    (h : utterances messages = .ok spoken) : ∀ m ∈ messages, Placed m := by
  induction messages generalizing spoken with
  | nil => exact nofun
  | cons m rest ih =>
    obtain ⟨speaker, hspeaker, h⟩ := ok_of_bind_eq_ok h
    obtain ⟨others, hothers, _⟩ := ok_of_bind_eq_ok h
    exact List.forall_mem_cons.mpr ⟨.inr ⟨speaker, hspeaker⟩, ih hothers⟩

/-- A conversation that can be split has a transcript, whatever its messages are. -/
theorem Exchange.transcript_of_ofTurns {turns : List Turn} {e : Exchange}
    (h : ofTurns turns = .ok e) : ∃ t, Transcript.ofTurns turns = .ok t := by
  suffices hspoken : ∀ m ∈ (turns.map Turn.toMessage).filter fun m => !m.isSystem, Placed m by
    refine ofMessages_of_placed fun m hm => ?_
    cases hsystem : m.isSystem with
    | true => exact .inl hsystem
    | false => exact hspoken m (List.mem_filter.mpr ⟨hm, by simp [hsystem]⟩)
  unfold ofTurns at h
  dsimp only at h
  generalize (turns.map Turn.toMessage).filter (fun m => !m.isSystem) = spoken at h ⊢
  cases hlast : spoken.getLast? with
  | none =>
    rw [List.getLast?_eq_none_iff.mp hlast]
    exact nofun
  | some last =>
    obtain ⟨before, rfl⟩ := List.getLast?_eq_some_iff.mp hlast
    rw [hlast] at h
    obtain ⟨speaker, hspeaker, h⟩ := ok_of_bind_eq_ok h
    cases speaker with
    | user =>
      obtain ⟨past, hpast, _⟩ := ok_of_bind_eq_ok h
      rw [List.dropLast_concat] at hpast
      exact List.forall_mem_append.mpr ⟨placed_of_utterances hpast,
        List.forall_mem_singleton.mpr (.inr ⟨_, hspeaker⟩)⟩
    | assistant =>
      obtain ⟨past, hpast, _⟩ := ok_of_bind_eq_ok h
      exact placed_of_utterances hpast

/-! ## The additional fields -/

theorem read_stop_sequences {settings : Settings} {record : Object}
    (h : schema.read settings = .ok record) :
    (sampling record).stop = .null ∨ ∃ items, (sampling record).stop = .list items :=
  Field.read_textList rfl (.inl rfl) (Schema.field_read h "stop_sequences" rfl)

theorem sharedFields_keys (record : Object) :
    ((sharedFields record).map Prod.fst).Sublist sharedNames :=
  (List.filter_sublist.map Prod.fst).trans (by simp [sharedNames])

theorem value?_sharedFields_preamble {settings : Settings} {record : Object}
    (h : schema.read settings = .ok record) :
    Object.value? (sharedFields record) "preamble" = (settings.text? "preamble").map .text := by
  have hfield := Schema.field_read h "preamble" rfl
  change settings.resolve "preamble" .null .text = .ok (Object.value record "preamble") at hfield
  have hvalue := Except.ok.inj (hfield.symm.trans (settings.resolve_text "preamble"))
  rw [sharedFields, Object.value?_dropNull_map, hvalue]
  cases settings.text? "preamble" with
  | none => simp [Value.ofText?, Value.isNull]
  | some s => simp [Value.ofText?, Value.isNull, sharedNames]

/-- The preamble of a request: the one that the settings give, otherwise the lines of the system
texts, if there are any. -/
def preambleOf (settings : Settings) (system : List Value) : Option String :=
  match settings.text? "preamble" with
  | some s => some s
  | none => if system.isEmpty then none else some ("\n".intercalate (system.map Value.display))

/-- A preamble made of system texts stands in only where the shared fields have none. -/
theorem preamble_cases {shared more : Object} {system : List Value}
    (h : preamble shared system = .ok more) :
    more = [] ∨ Object.value? shared "preamble" = none ∧
      ∃ joined, more = [("preamble", .text joined)] := by
  unfold preamble at h
  split at h
  · exact .inl (Except.ok.inj h).symm
  · rename_i hnone
    obtain ⟨joined, _, h⟩ := ok_of_bind_eq_ok h
    refine .inr ⟨?_, joined, (Except.ok.inj h).symm⟩
    rw [Bool.or_eq_true, not_or, Object.holds, Option.not_isSome_iff_eq_none] at hnone
    exact hnone.1

/-- Additional fields that were made, part by part. -/
theorem of_additional {e : Exchange} {record extra : Object} (h : additional e record = .ok extra) :
    ∃ more, preamble (sharedFields record) e.system = .ok more ∧
      extra = [("message", e.message), ("chat_history", .list (e.history.map historyEntry))] ++
        sharedFields record ++ more := by
  obtain ⟨more, hmore, h⟩ := ok_of_bind_eq_ok h
  exact ⟨more, hmore, (Except.ok.inj h).symm⟩

theorem preamble_eq_ok {settings : Settings} {record : Object} {system : List Value}
    (hread : schema.read settings = .ok record) (htexts : ∀ v ∈ system, ∃ s, v = .text s) :
    ∃ more, preamble (sharedFields record) system = .ok more ∧
      (Object.value? (sharedFields record) "preamble").or (Object.value? more "preamble") =
        (preambleOf settings system).map .text := by
  unfold preamble preambleOf Object.holds
  rw [value?_sharedFields_preamble hread]
  cases settings.text? "preamble" with
  | some s => exact ⟨[], rfl, rfl⟩
  | none =>
    cases system.isEmpty with
    | true => exact ⟨[], rfl, rfl⟩
    | false =>
      rw [joinLines, Value.toTexts_of_isText htexts]
      exact ⟨_, rfl, rfl⟩

theorem additional_eq_ok {settings : Settings} {record : Object} {e : Exchange}
    (hread : schema.read settings = .ok record) (htexts : ∀ v ∈ e.system, ∃ s, v = .text s) :
    ∃ extra, additional e record = .ok extra ∧
      Object.value? extra "message" = some e.message ∧
      Object.value? extra "chat_history" = some (.list (e.history.map historyEntry)) ∧
      Object.value? extra "preamble" = (preambleOf settings e.system).map .text := by
  obtain ⟨more, hmore, hvalue⟩ := preamble_eq_ok hread htexts
  unfold additional
  dsimp only
  rw [hmore]
  refine ⟨_, rfl, rfl, rfl, ?_⟩
  rw [Object.value?_append, Object.value?_append, ← hvalue]
  rfl

/-! ## Reading a request -/

/-- The items of a list, all read in the same way. -/
def entries? {α : Type} (read : Value → Option α) : Value → Option (List α)
  | .list items => items.mapM read
  | _ => none

/-- The role and the content of a converse message. -/
def converseEntry? : Value → Option (String × Value)
  | .object [("role", .text role), ("content", .list [.object [("text", content)]])] =>
    some (role, content)
  | _ => none

/-- The role and the content of an earlier turn, under the names that roles have elsewhere. -/
def historyEntry? : Value → Option (String × Value)
  | .object [("role", .text "USER"), ("message", content)] => some ("user", content)
  | .object [("role", .text "CHATBOT"), ("message", content)] => some ("assistant", content)
  | _ => none

def systemEntry? : Value → Option Value
  | .object [("text", content)] => some content
  | _ => none

theorem entries?_map {α β : Type} {read : Value → Option α} {write : β → Value} {f : β → α}
    (h : ∀ b, read (write b) = some (f b)) (l : List β) :
    entries? read (.list (l.map write)) = some (l.map f) := by
  change (l.map write).mapM read = some (l.map f)
  rw [List.mapM_map, show read ∘ write = fun b => pure (f b) from funext h, List.mapM_pure]
  rfl

theorem converseEntry?_toConverse (u : Utterance) :
    converseEntry? u.toConverse = some u.entry := rfl

theorem historyEntry?_historyEntry (u : Utterance) :
    historyEntry? (historyEntry u) = some u.entry := by
  obtain ⟨speaker, content⟩ := u
  cases speaker <;> rfl

theorem systemEntry?_block (s : Value) : systemEntry? (.object [("text", s)]) = some s := rfl

theorem last_is_user_iff (spoken : List Utterance) :
    (spoken.map Utterance.entry).getLast?.map Prod.fst = some "user" ↔
      spoken.getLast?.map Utterance.speaker = some .user := by
  rw [List.getLast?_map]
  cases spoken.getLast? with
  | none => simp
  | some u =>
    obtain ⟨speaker, content⟩ := u
    cases speaker <;> simp [Utterance.entry, Speaker.name]

/-- That a request holds a conversation in two shapes, of which the second is among the additional
fields. -/
structure InBothShapes (messages : List Message) (settings : Settings) (request extra : Object) :
    Prop where
  additional : Object.value? request "additionalModelRequestFields" = some (.object extra)
  spoken : entries? converseEntry? (Object.value request "messages") = some (spokenEntries messages)
  history : ∃ past, entries? historyEntry? (Object.value extra "chat_history") = some past ∧
    if (spokenEntries messages).getLast?.map Prod.fst = some "user" then
      spokenEntries messages = past ++ [("user", Object.value extra "message")]
    else
      Object.value? extra "message" = some (.text "") ∧ spokenEntries messages = past
  system : entries? systemEntry? (Object.value request "system") = some (systemContents messages)
  preamble : Object.value? extra "preamble" =
    (preambleOf settings (systemContents messages)).map .text

theorem InBothShapes.of_splits {messages : List Message} {settings : Settings} {e : Exchange}
    {extra : Object} (modelId : String) (inference : Object)
    (hsystem : e.system = systemContents messages)
    (hsplits : e.Splits (messages.filterMap Message.utterance?))
    (hentries : spokenEntries messages =
      (messages.filterMap Message.utterance?).map Utterance.entry)
    (hmessage : Object.value? extra "message" = some e.message)
    (hhistory : Object.value? extra "chat_history" = some (.list (e.history.map historyEntry)))
    (hpreamble : Object.value? extra "preamble" = (preambleOf settings e.system).map .text) :
    InBothShapes messages settings (ConverseRequest.toObject ⟨modelId,
      ⟨systemContents messages, messages.filterMap Message.utterance?⟩, inference, extra, none⟩)
      extra where
  additional := rfl
  spoken := hentries ▸ entries?_map converseEntry?_toConverse _
  history := by
    refine ⟨e.history.map Utterance.entry, ?_, ?_⟩
    · rw [Object.value, hhistory]
      exact entries?_map historyEntry?_historyEntry _
    · rw [hentries]
      unfold Exchange.Splits at hsplits
      split at hsplits
      · rename_i huser
        rw [if_pos ((last_is_user_iff _).mpr huser), Object.value, hmessage, hsplits, List.map_append]
        rfl
      · rename_i huser
        rw [if_neg ((last_is_user_iff _).not.mpr huser), hmessage, hsplits.1, ← hsplits.2]
        exact ⟨rfl, rfl⟩
  system := (entries?_map (f := id) systemEntry?_block _).trans (by rw [List.map_id])
  preamble := by rw [hpreamble, hsystem]

/-! ## The request -/

section
variable {turns : List Turn} {settings : Settings} {record : Object}

theorem converseRequest_of_known (modelId : String) (hread : schema.read settings = .ok record)
    (hturns : ∀ t ∈ turns, t.Ordinary) (hknown : ∀ t ∈ turns, t.toMessage.role ∈ knownRoles) :
    ∃ request extra, converseRequest modelId turns settings = .ok request ∧
      InBothShapes (turns.map Turn.toMessage) settings request extra := by
  have hnormal := Turn.Ordinary.normal_messages hturns
  have hroles : ∀ m ∈ turns.map Turn.toMessage, m.role ∈ knownRoles := by
    intro m hm
    obtain ⟨t, ht, rfl⟩ := List.mem_map.mp hm
    exact hknown t ht
  -- The encoder splits the conversation first and builds the transcript last, both from `turns`.
  obtain ⟨e, he, hsystem, hsplits⟩ := Exchange.ofTurns_of_known hnormal hroles
  have htexts : ∀ v ∈ e.system, ∃ s, v = .text s := hsystem ▸ systemContents_text hturns
  obtain ⟨extra, hextra, hmessage, hhistory, hpreamble⟩ := additional_eq_ok hread htexts
  obtain ⟨inference, hinference⟩ : ∃ inference, (sampling record).toConverse = .ok inference :=
    ⟨_, Sampling.toConverse_eq (read_stop_sequences hread)⟩
  have hmake : ConverseRequest.make modelId turns inference extra none = .ok ⟨modelId,
      ⟨systemContents (turns.map Turn.toMessage),
        (turns.map Turn.toMessage).filterMap Message.utterance?⟩, inference, extra, none⟩ := by
    rw [ConverseRequest.make, Transcript.ofTurns, Transcript.ofMessages_of_known hnormal hroles]
    rfl
  refine ⟨_, extra, ?_, InBothShapes.of_splits modelId inference hsystem hsplits
    (spokenEntries_of_known hnormal hroles) hmessage hhistory hpreamble⟩
  unfold converseRequest
  rw [Fault.ofConversion_bind hread, Fault.ofGateway_bind he, Fault.ofConversion_bind hextra,
    Fault.ofConversion_bind hinference, Fault.ofGateway_bind hmake]
  rfl

theorem converseRequest_of_unknown (modelId : String) (hread : schema.read settings = .ok record)
    (hturns : ∀ t ∈ turns, t.Ordinary) (hunknown : ∃ t ∈ turns, t.toMessage.role ∉ knownRoles) :
    ∃ given, converseRequest modelId turns settings =
      .error (.gateway (.invalidParameter (.role given))) := by
  obtain ⟨t, ht, hno⟩ := hunknown
  obtain ⟨given, hgiven⟩ := Exchange.ofTurns_of_unknown (Turn.Ordinary.normal_messages hturns)
    ⟨t.toMessage, List.mem_map_of_mem ht, hno⟩
  unfold converseRequest
  rw [hread, hgiven]
  exact ⟨given, rfl⟩

/-- With settings that can be read, what becomes of a request depends on the roles alone. -/
theorem made_or_refused (modelId : String) (hread : schema.read settings = .ok record)
    (hturns : ∀ t ∈ turns, t.Ordinary) :
    ((∀ t ∈ turns, t.toMessage.role ∈ knownRoles) ∧
      ∃ request extra, converseRequest modelId turns settings = .ok request ∧
        InBothShapes (turns.map Turn.toMessage) settings request extra) ∨
    ((∃ t ∈ turns, t.toMessage.role ∉ knownRoles) ∧
      ∃ given, converseRequest modelId turns settings =
        .error (.gateway (.invalidParameter (.role given)))) := by
  by_cases hknown : ∀ t ∈ turns, t.toMessage.role ∈ knownRoles
  · exact .inl ⟨hknown, converseRequest_of_known modelId hread hturns hknown⟩
  · have hunknown : ∃ t ∈ turns, t.toMessage.role ∉ knownRoles := by
      simpa only [not_forall, exists_prop] using hknown
    exact .inr ⟨hunknown, converseRequest_of_unknown modelId hread hturns hunknown⟩

/-- Settings with which a request was made can be read. -/
theorem read_of_converseRequest {modelId : String} {request : Object}
    (h : converseRequest modelId turns settings = .ok request) :
    ∃ record, schema.read settings = .ok record := by
  unfold converseRequest at h
  obtain ⟨record, hrecord, _⟩ := ok_of_bind_eq_ok h
  exact ⟨record, Fault.ok_of_ofConversion hrecord⟩

end

/-- A request holds its conversation in both shapes. With settings that allow a request at all, it
is made for the conversations in which every turn has a place and refused for all others. -/
theorem converse_request_in_both_shapes (modelId : String) (turns : List Turn) (settings : Settings)
    (hturns : ∀ t ∈ turns, t.Ordinary) :
    (∀ request, converseRequest modelId turns settings = .ok request →
      ∃ extra, InBothShapes (turns.map Turn.toMessage) settings request extra) ∧
    ((∃ others request, converseRequest modelId others settings = .ok request) →
      ((∃ request, converseRequest modelId turns settings = .ok request) ↔
        ∀ t ∈ turns, t.toMessage.role ∈ knownRoles) ∧
      ((∃ why, converseRequest modelId turns settings = .error (.gateway (.invalidParameter why))) ↔
        ∃ t ∈ turns, t.toMessage.role ∉ knownRoles)) := by
  refine ⟨?_, ?_⟩
  · intro request hrequest
    obtain ⟨record, hread⟩ := read_of_converseRequest hrequest
    rcases made_or_refused modelId hread hturns with
      ⟨_, made, extra, hmade, hshapes⟩ | ⟨_, _, hrefused⟩
    · rw [Except.ok.inj (hrequest.symm.trans hmade)]
      exact ⟨extra, hshapes⟩
    · cases hrefused.symm.trans hrequest
  · rintro ⟨others, request, hothers⟩
    obtain ⟨record, hread⟩ := read_of_converseRequest hothers
    rcases made_or_refused modelId hread hturns with
      ⟨hknown, made, _, hmade, _⟩ | ⟨⟨t, ht, hno⟩, given, hrefused⟩
    · rw [hmade]
      refine ⟨⟨fun _ => hknown, fun _ => ⟨made, rfl⟩⟩, nofun, ?_⟩
      rintro ⟨t, ht, hno⟩
      exact absurd (hknown t ht) hno
    · rw [hrefused]
      refine ⟨⟨nofun, ?_⟩, fun _ => ⟨t, ht, hno⟩, fun _ => ⟨_, rfl⟩⟩
      exact fun hknown => absurd (hknown t ht) hno

/-- A conversation of messages and objects, with a system text in the middle. -/
def mixedTurns : List Turn :=
  [.message (.make (.text " User ") (.text "Hi")),
   .described [("role", .text "ASSISTANT"), ("content", .text "Hello")],
   .described [("role", .text "system"), ("content", .text "Be kind.")],
   .message (.make (.text "user") (.text ""))]

theorem converse_request_mixed :
    (∀ t ∈ mixedTurns, t.Ordinary) ∧
    ∃ request extra, converseRequest "cohere.command-r-v1:0" mixedTurns none = .ok request ∧
      InBothShapes (mixedTurns.map Turn.toMessage) none request extra := by
  have hturns : ∀ t ∈ mixedTurns, t.Ordinary := by
    unfold mixedTurns
    simp only [List.forall_mem_cons]
    exact ⟨⟨_, _, rfl⟩, trivial, trivial, ⟨_, _, rfl⟩, nofun⟩
  have h := converse_request_in_both_shapes "cohere.command-r-v1:0" mixedTurns none hturns
  obtain ⟨request, hrequest⟩ := (h.2 ⟨[], _, rfl⟩).1.mpr (by decide)
  obtain ⟨extra, hshapes⟩ := h.1 request hrequest
  exact ⟨hturns, request, extra, hrequest, hshapes⟩

end CommandR
end ModelGateway
