import ModelGateway.Chat
import ModelGateway.Proofs.Run
import ModelGateway.Proofs.Options

/-!
# Which conversations have a transcript

Roles stay as they are once they are normalized, so a message belongs to the system, to one of the
two speakers or to nobody. A conversation has a transcript when every message belongs to somebody:
the system texts in order, and apart from them what is spoken in order.
-/
namespace ModelGateway

theorem normalizeRole_normalizeRole (role : Value) :
    normalizeRole (.text (normalizeRole role)) = normalizeRole role := by
  unfold normalizeRole
  rw [Value.displayOrEmpty_text, Text.strip_lower_strip, Text.lower_lower]

/-- The roles that have a place in a conversation. -/
def knownRoles : List String := ["system", "user", "assistant"]

namespace Message

/-- That a message keeps its role in the form in which roles are compared. -/
def Normal (m : Message) : Prop := normalizeRole (.text m.role) = m.role

theorem make_normal (role content : Value) : (make role content).Normal :=
  normalizeRole_normalizeRole role

/-- What a message adds to what is spoken. -/
def utterance? (m : Message) : Option Utterance := (Speaker.ofName? m.role).map (⟨·, m.content⟩)

variable {m : Message}

theorem isSystem_iff : m.isSystem = true ↔ m.role = "system" := beq_iff_eq

theorem utterance?_of_system (h : m.role = "system") : m.utterance? = none := by
  rw [utterance?, h]
  rfl

theorem utterance?_of_speaker {speaker : Speaker} (h : m.role = speaker.name) :
    m.utterance? = some ⟨speaker, m.content⟩ := by
  rw [utterance?, h]
  cases speaker <;> rfl

/-- A message of the system, of a speaker, or of nobody. -/
theorem role_cases (h : m.Normal) :
    m.role = "system" ∨
      (∃ speaker : Speaker, m.role = speaker.name ∧ Speaker.ofRole (.text m.role) = .ok speaker) ∨
      m.role ∉ knownRoles ∧
        Speaker.ofRole (.text m.role) = .error (.invalidParameter (.role m.role)) := by
  have hfound : ∀ speaker, Speaker.ofName? m.role = some speaker →
      Speaker.ofRole (.text m.role) = .ok speaker := by
    intro speaker hname
    rw [Speaker.ofRole, h, hname]
  by_cases hsystem : m.role = "system"
  · exact .inl hsystem
  by_cases huser : m.role = "user"
  · exact .inr (.inl ⟨.user, huser, hfound _ (by rw [huser]; rfl)⟩)
  by_cases hassistant : m.role = "assistant"
  · exact .inr (.inl ⟨.assistant, hassistant, hfound _ (by rw [hassistant]; rfl)⟩)
  refine .inr (.inr ⟨by simp [knownRoles, hsystem, huser, hassistant], ?_⟩)
  rw [Speaker.ofRole, h, Speaker.ofName?, if_neg huser, if_neg hassistant]
  rfl

theorem known_of_speaker {speaker : Speaker} (h : m.role = speaker.name) : m.role ∈ knownRoles := by
  rw [h]
  cases speaker <;> decide

theorem not_system_of_speaker {speaker : Speaker} (h : m.role = speaker.name) :
    m.isSystem = false := by
  rw [isSystem, h]
  cases speaker <;> rfl

theorem not_system_of_unknown (h : m.role ∉ knownRoles) : m.isSystem = false := by
  cases hsystem : m.isSystem with
  | false => rfl
  | true =>
    rw [isSystem_iff.mp hsystem] at h
    exact absurd (by decide) h

end Message

namespace Turn

/-- A turn as callers can build it: an object, or a message whose content is a text. -/
def Ordinary : Turn → Prop
  | message m => ∃ (role : Value) (content : String), m = Message.make role (.text content)
  | described _ => True

variable {t : Turn}

theorem Ordinary.normal (h : t.Ordinary) : t.toMessage.Normal := by
  cases t with
  | message m =>
    obtain ⟨role, content, rfl⟩ := h
    exact Message.make_normal _ _
  | described o => exact Message.make_normal _ _

theorem Ordinary.normal_messages {turns : List Turn} (h : ∀ t ∈ turns, t.Ordinary) :
    ∀ m ∈ turns.map toMessage, m.Normal := by
  intro m hm
  obtain ⟨t, ht, rfl⟩ := List.mem_map.mp hm
  exact (h t ht).normal

theorem Ordinary.content_text (h : t.Ordinary) : ∃ s, t.toMessage.content = .text s := by
  cases t with
  | message m =>
    obtain ⟨role, content, rfl⟩ := h
    exact ⟨content, rfl⟩
  | described o => exact ⟨_, rfl⟩

end Turn

/-- The contents of the system messages. -/
def systemContents (messages : List Message) : List Value :=
  (messages.filter Message.isSystem).map Message.content

theorem systemContents_cons (m : Message) (rest : List Message) :
    systemContents (m :: rest) =
      if m.isSystem then m.content :: systemContents rest else systemContents rest := by
  unfold systemContents
  rw [List.filter_cons]
  split <;> rfl

theorem systemContents_text {turns : List Turn} (h : ∀ t ∈ turns, t.Ordinary) :
    ∀ v ∈ systemContents (turns.map Turn.toMessage), ∃ s, v = .text s := by
  intro v hv
  obtain ⟨m, hm, rfl⟩ := List.mem_map.mp hv
  obtain ⟨t, ht, rfl⟩ := List.mem_map.mp (List.mem_filter.mp hm).1
  exact (h t ht).content_text

/-- The role and the content of what is spoken. -/
def Utterance.entry (u : Utterance) : String × Value := (u.speaker.name, u.content)

/-- The role and the content of each message that is not the system's. -/
def spokenEntries (messages : List Message) : List (String × Value) :=
  (messages.filter fun m => !m.isSystem).map fun m => (m.role, m.content)

theorem spokenEntries_of_known {messages : List Message} (hnormal : ∀ m ∈ messages, m.Normal)
    (hknown : ∀ m ∈ messages, m.role ∈ knownRoles) :
    spokenEntries messages =
      (messages.filterMap Message.utterance?).map Utterance.entry := by
  unfold spokenEntries
  induction messages with
  | nil => rfl
  | cons m rest ih =>
    obtain ⟨hm, hrest⟩ := List.forall_mem_cons.mp hnormal
    obtain ⟨hk, hkrest⟩ := List.forall_mem_cons.mp hknown
    rw [List.filter_cons, List.filterMap_cons]
    rcases Message.role_cases hm with hrole | ⟨speaker, hrole, _⟩ | ⟨hno, _⟩
    · rw [Message.isSystem_iff.mpr hrole, Message.utterance?_of_system hrole]
      exact ih hrest hkrest
    · rw [Message.not_system_of_speaker hrole, Message.utterance?_of_speaker hrole]
      exact congrArg₂ List.cons (Prod.ext hrole rfl) (ih hrest hkrest)
    · exact absurd hk hno

/-- The messages that are not the system's say everything that is spoken. -/
theorem filterMap_utterance?_filter (messages : List Message) :
    (messages.filter fun m => !m.isSystem).filterMap Message.utterance? =
      messages.filterMap Message.utterance? := by
  rw [List.filterMap_filter]
  congr 1
  funext m
  cases h : m.isSystem with
  | false => rfl
  | true => exact (Message.utterance?_of_system (Message.isSystem_iff.mp h)).symm

namespace Transcript

variable {messages : List Message}

theorem ofMessages_of_known (hnormal : ∀ m ∈ messages, m.Normal)
    (hknown : ∀ m ∈ messages, m.role ∈ knownRoles) :
    ofMessages messages =
      .ok ⟨systemContents messages, messages.filterMap Message.utterance?⟩ := by
  induction messages with
  | nil => rfl
  | cons m rest ih =>
    obtain ⟨hm, hrest⟩ := List.forall_mem_cons.mp hnormal
    obtain ⟨hk, hkrest⟩ := List.forall_mem_cons.mp hknown
    rw [ofMessages, ih hrest hkrest, systemContents_cons, List.filterMap_cons]
    rcases Message.role_cases hm with hrole | ⟨speaker, hrole, hok⟩ | ⟨hno, _⟩
    · rw [Message.isSystem_iff.mpr hrole, Message.utterance?_of_system hrole]
      rfl
    · rw [Message.not_system_of_speaker hrole, hok, Message.utterance?_of_speaker hrole]
      rfl
    · exact absurd hk hno

/-- The error names the role of the first message that belongs to nobody. -/
theorem ofMessages_of_unknown (hnormal : ∀ m ∈ messages, m.Normal)
    (hunknown : ∃ m ∈ messages, m.role ∉ knownRoles) :
    ∃ given, ofMessages messages = .error (.invalidParameter (.role given)) := by
  induction messages with
  | nil =>
    obtain ⟨m, hm, _⟩ := hunknown
    cases hm
  | cons m rest ih =>
    obtain ⟨hm, hrest⟩ := List.forall_mem_cons.mp hnormal
    have hlater : m.role ∈ knownRoles → ∃ m ∈ rest, m.role ∉ knownRoles := by
      intro hknown
      obtain ⟨u, hu, hno⟩ := hunknown
      rcases List.mem_cons.mp hu with rfl | hu
      · exact absurd hknown hno
      · exact ⟨u, hu, hno⟩
    rw [ofMessages]
    rcases Message.role_cases hm with hrole | ⟨speaker, hrole, hok⟩ | ⟨hno, herror⟩
    · obtain ⟨given, hgiven⟩ := ih hrest (hlater (by rw [hrole]; decide))
      rw [Message.isSystem_iff.mpr hrole, hgiven]
      exact ⟨given, rfl⟩
    · obtain ⟨given, hgiven⟩ := ih hrest (hlater (Message.known_of_speaker hrole))
      rw [Message.not_system_of_speaker hrole, hok, hgiven]
      exact ⟨given, rfl⟩
    · rw [Message.not_system_of_unknown hno, herror]
      exact ⟨m.role, rfl⟩

end Transcript
end ModelGateway
