import ModelGateway.Proofs.Client.Remark

/-!
# The log tells what happened, and nothing else

What there is to remark on a use of a client is what there is to remark on the operation behind it. A
run of uses that is logged leaves an event for each remark, in order, and no other event; a run that
is not logged leaves none, and is the same otherwise.
-/
namespace ModelGateway

/-! ## Uses -/

/-- A stream that was opened and has not ended. -/
def Lifetime.stream? (life : Lifetime) (i : Nat) : Option Stream := life.streams[i]?.join

/-- The operation of the invoker that a use goes through, if it goes through one. -/
def Use.operation? (life : Lifetime) : {capability : Capability} → Use capability → Option String
  | _, .generate .. => some "invoke_model"
  | _, .openText .. => none
  | _, .complete .. => some "converse"
  | _, .openChat .. => none
  | _, .embed _ => some "invoke_model"
  | _, .generateImage .. => some "invoke_model"
  | _, .pull i => (life.stream? i).map Stream.operation

/-- The failure that is still to come in the stream that a use goes on with. -/
def Use.rest? {capability : Capability} (life : Lifetime) : Use capability → Option Failure
  | .pull i => (life.stream? i).bind Stream.failure?
  | _ => none

namespace Client

variable {capability : Capability} (c : Client capability) (invoker : Invoker)

/-- What there is to remark on a use after what has happened before. -/
def remarkOn? (life : Lifetime) (use : Use capability) : Option Remark :=
  let ended := c.perform invoker life use
  (use.operation? life).bind fun operation =>
    c.remark? invoker operation (use.rest? life) life.journal.calls
      (ended.2.journal.calls.drop life.journal.calls.length) ended.1

/-- What there is to remark on uses, one after another. -/
def remarksFrom (life : Lifetime) : List (Use capability) → List Remark
  | [] => []
  | use :: rest =>
    (c.remarkOn? invoker life use).toList ++ remarksFrom (c.perform invoker life use).2 rest

def remarks (uses : List (Use capability)) : List Remark := c.remarksFrom invoker .start uses

variable {c invoker} {life : Lifetime}

/-- What a use does is told if the operation that it goes through is. -/
theorem journal_of_told {use : Use capability} {operation : String} {α : Type} {gain : α → Gain}
    {made : List Call} {ended : Except Fault α × Journal}
    (hoperation : use.operation? life = some operation)
    (houtcome : (c.perform invoker life use).1 = ended.1.map gain)
    (hjournal : (c.perform invoker life use).2.journal = ended.2)
    (h : c.Told invoker operation (use.rest? life) gain life.journal made ended) :
    (c.perform invoker life use).2.journal =
      c.extend life.journal made (c.remarkOn? invoker life use) := by
  have hremark : c.remarkOn? invoker life use = c.remark? invoker operation (use.rest? life)
      life.journal.calls made (ended.1.map gain) := by
    unfold remarkOn?
    dsimp only
    rw [hoperation, houtcome, hjournal, h, extend, List.drop_left]
    rfl
  rw [hremark, hjournal]
  exact h

theorem journal_of_session {use : Use capability} {operation : String} {α : Type} {gain : α → Gain}
    {action : Session α} (hoperation : use.operation? life = some operation)
    (hrest : use.rest? life = none)
    (hperform : c.perform invoker life use = life.session (gain <$> action))
    (h : c.Tells invoker operation none gain action) :
    ∃ made, (c.perform invoker life use).2.journal =
      c.extend life.journal made (c.remarkOn? invoker life use) := by
  obtain ⟨made, htold⟩ := h life.journal
  rw [← hrest] at htold
  refine ⟨made, journal_of_told hoperation ?_ ?_ htold⟩
  · rw [hperform, Lifetime.session, run_map]
  · rw [hperform, Lifetime.session, run_map]

/-- A use that goes through no operation leaves the journal alone, and is not remarked on. -/
theorem journal_of_none {use : Use capability} (hoperation : use.operation? life = none)
    (hjournal : (c.perform invoker life use).2.journal = life.journal) :
    ∃ made, (c.perform invoker life use).2.journal =
      c.extend life.journal made (c.remarkOn? invoker life use) := by
  have hremark : c.remarkOn? invoker life use = none := by
    unfold remarkOn?
    rw [hoperation]
    rfl
  refine ⟨[], ?_⟩
  rw [hremark, extend_nil, hjournal]

theorem journal_opening (life : Lifetime) (outcome : Except Fault OpenStream) :
    (life.opening outcome).2.journal = life.journal := by
  cases outcome with
  | error f => rfl
  | ok stream => rfl

/-- A pull from a stream that is there ends as the stream is read on. -/
theorem pulling_of_stream {i : Nat} {stream : Stream} (h : life.stream? i = some stream)
    (next : Stream → Session (Option (String × Stream))) :
    (life.pulling i next).1 = ((next stream).run life.journal).1.map pulled ∧
      (life.pulling i next).2.journal = ((next stream).run life.journal).2 := by
  have hget : life.streams[i]? = some (some stream) := Option.join_eq_some_iff.mp h
  unfold Lifetime.pulling
  rw [hget]
  dsimp only
  rcases (next stream).run life.journal with ⟨f | _ | ⟨text, rest⟩, j⟩
  · exact ⟨rfl, rfl⟩
  · exact ⟨rfl, rfl⟩
  · exact ⟨rfl, rfl⟩

theorem pulling_of_none {i : Nat} (h : life.stream? i = none)
    (next : Stream → Session (Option (String × Stream))) :
    (life.pulling i next).2.journal = life.journal := by
  unfold Lifetime.pulling
  split
  · rename_i stream hget
    rw [Lifetime.stream?, hget] at h
    cases h
  · rfl

theorem journal_of_pull (hstandard : c.route.adapter ∈ standardRoutes.map Route.adapter)
    (i : Nat) : ∃ made, (c.perform invoker life (.pull i)).2.journal =
      c.extend life.journal made (c.remarkOn? invoker life (.pull i)) := by
  have hoperation : Use.operation? life (.pull i : Use capability) =
      (life.stream? i).map Stream.operation := rfl
  have hrest : Use.rest? life (.pull i : Use capability) = (life.stream? i).bind Stream.failure? :=
    rfl
  cases hstream : life.stream? i with
  | none =>
    rw [hstream] at hoperation
    exact journal_of_none hoperation (pulling_of_none hstream _)
  | some stream =>
    rw [hstream] at hoperation hrest
    obtain ⟨made, htold⟩ := next_told invoker hstandard stream life.journal
    obtain ⟨houtcome, hjournal⟩ := pulling_of_stream hstream (c.next invoker)
    exact ⟨made, journal_of_told hoperation houtcome hjournal (hrest ▸ htold)⟩

variable (invoker) in
/-- A use leaves the calls that it makes in the journal, and what there is to remark on it. -/
theorem journal_perform (hstandard : c.route.adapter ∈ standardRoutes.map Route.adapter)
    (life : Lifetime) (use : Use capability) :
    ∃ made, (c.perform invoker life use).2.journal =
      c.extend life.journal made (c.remarkOn? invoker life use) := by
  cases use with
  | generate prompt settings =>
    exact journal_of_session rfl rfl rfl (generate_told hstandard prompt settings)
  | openText prompt settings => exact journal_of_none rfl (journal_opening life _)
  | complete turns settings =>
    exact journal_of_session rfl rfl rfl (complete_told hstandard turns settings)
  | openChat turns settings => exact journal_of_none rfl (journal_opening life _)
  | embed texts => exact journal_of_session rfl rfl rfl (embed_told hstandard texts)
  | generateImage description width height settings =>
    exact journal_of_session rfl rfl rfl
      (generateImage_told hstandard description width height settings)
  | pull i => exact journal_of_pull hstandard i

/-! ## Runs -/

/-- Uses one after another leave what there is to remark on each, in order. -/
theorem events_after (hstandard : c.route.adapter ∈ standardRoutes.map Route.adapter)
    (uses : List (Use capability)) :
    (c.after invoker uses).journal.events = c.entries (c.remarks invoker uses) := by
  unfold after remarks
  -- The events of a use come after those that are there, so the run may start from any lifetime.
  suffices ∀ life : Lifetime,
      (uses.foldl (fun life use => (c.perform invoker life use).2) life).journal.events =
        life.journal.events ++ c.entries (c.remarksFrom invoker life uses) from this .start
  intro life
  induction uses generalizing life with
  | nil =>
    rw [remarksFrom, entries_nil, List.append_nil]
    rfl
  | cons use rest ih =>
    obtain ⟨made, hjournal⟩ := journal_perform invoker hstandard life use
    rw [List.foldl_cons, ih, hjournal, remarksFrom, entries_append, extend, List.append_assoc]

end Client

/-- That the environment switches logging off. -/
def Environment.LogsOff (env : Environment) : Prop :=
  ∃ setting, env.value? "BEDROCK_LOG_EVENTS" = some setting ∧
    Text.lower (Text.strip setting) ∈ ["0", "false", "no", "n", "off"]

theorem Event.enabled_eq_false_iff {env : Environment} : enabled env = false ↔ env.LogsOff := by
  unfold enabled Environment.LogsOff
  rw [Bool.not_eq_false', List.contains_iff_mem]
  cases env.value? "BEDROCK_LOG_EVENTS" with
  | some setting =>
    constructor
    · intro h
      exact ⟨setting, rfl, h⟩
    · rintro ⟨_, ⟨⟩, h⟩
      exact h
  | none =>
    constructor
    · intro h
      exact absurd h (by decide +kernel)
    · rintro ⟨_, ⟨⟩, _⟩

namespace Client

variable {capability : Capability}

/-- A client with a standard adapter that logs leaves an event for each thing there is to remark on,
in order, and no other: for each failure of a call, or of writing its body, that callers see wrapped;
for each completion of Titan that leaves candidates out; and for each image that was not made. A
client that does not log leaves none, and neither does an environment that switches logging off. Runs
that differ in whether the client logs end alike and make the same calls. -/
theorem log_tells_what_happened (c : Client capability) (invoker : Invoker)
    (uses : List (Use capability))
    (hstandard : c.route.adapter ∈ standardRoutes.map Route.adapter) :
    let life := c.after invoker uses
    let remarks := c.remarks invoker uses
    life.journal.events = (if c.logEvents then remarks.map (Remark.event c) else []) ∧
    (∀ env time,
      (c.logEvents = false ∨ env.LogsOff → Event.lines env time life.journal.events = []) ∧
      (c.logEvents = true → ¬env.LogsOff → Event.lines env time life.journal.events =
        remarks.map fun r => Event.line time (r.event c))) ∧
    ∀ on, (c.logging on).outcomes invoker uses = c.outcomes invoker uses ∧
      ((c.logging on).after invoker uses).journal.calls = life.journal.calls := by
  intro life remarks
  have hevents : life.journal.events = if c.logEvents then remarks.map (Remark.event c) else [] :=
    events_after hstandard uses
  refine ⟨hevents, ?_, fun on => c.run_alike on invoker uses⟩
  intro env time
  unfold Event.lines
  rw [hevents]
  constructor
  · rintro (hlog | hoff)
    · rw [hlog, if_neg Bool.false_ne_true, List.map_nil, ite_self]
    · rw [if_neg]
      rw [Event.enabled_eq_false_iff.mpr hoff]
      exact Bool.false_ne_true
  · intro hlog hon
    have henabled : Event.enabled env = true := by
      rw [← Bool.not_eq_false, Event.enabled_eq_false_iff]
      exact hon
    rw [if_pos henabled, if_pos hlog, List.map_map]
    rfl

def titanText : Client .textGeneration :=
  ⟨"amazon.titan-text-lite-v1", .make "amazon" "titan-" Titan.adapter textAndChat, false, true⟩

/-- An invoker that answers with two candidates, and whose streams break after one chunk. -/
def twoCandidates : Invoker where
  invoke _ _ := .ok (.value (.object [("results", .list [.object [("outputText", .text "a")],
    .object [("outputText", .text "b")]])]))
  invokeStream _ _ := ⟨[.value (.object [("outputText", .text "c")])],
    some (.foreign ⟨"RuntimeError", "cut off"⟩)⟩
  converse _ _ := .ok .null
  converseStream _ _ := ⟨[], none⟩

/-- A completion that leaves a candidate out, and a stream that breaks in the second pull. -/
theorem log_tells_of_broken_stream :
    titanText.route.adapter ∈ standardRoutes.map Route.adapter ∧
    (titanText.after twoCandidates [.generate (.text "hi") none, .openText (.text "ho") none,
        .pull 0, .pull 0]).journal.events =
      [Remark.event titanText (.discarded 1), Remark.event titanText
        (.failed "invoke_model_stream" ⟨"RuntimeError", "cut off"⟩)] := by
  have hstandard : titanText.route.adapter ∈ standardRoutes.map Route.adapter :=
    List.mem_of_getElem? (i := 1) rfl
  refine ⟨hstandard, ?_⟩
  rw [(log_tells_what_happened titanText twoCandidates [.generate (.text "hi") none,
    .openText (.text "ho") none, .pull 0, .pull 0] hstandard).1]
  rfl

/-- A body that cannot be written is logged, although nothing is called and no invoker failed. -/
theorem unwritten_body_is_logged :
    let c := commandR.logging true
    let life := c.after oneChunk [.generate (.text "hi")
      (some [("documents", .list [.message "user" (.text "note")])])]
    life.journal.calls = [] ∧ life.journal.events = [Remark.event c (.failed "invoke_model"
      ⟨"TypeError", "Object of type ChatMessage is not JSON serializable"⟩)] :=
  ⟨rfl, rfl⟩

end Client

end ModelGateway
