import ModelGateway.Proofs.Client.Operation
import ModelGateway.Proofs.Client.Stream
import ModelGateway.Proofs.Registry.Lookup

/-!
# A client never lacks an operation

A route is listed only if its adapter has every operation behind the capabilities that it declares,
and a client is made only for a route that declares the client's capability. That one check holds for
the lifetime of the client: whatever it is used for later, in whatever order, the operation is there.
Only a stream needs a capability of its own, and that is checked when it is opened.
-/
namespace ModelGateway

/-- That a fault does not say that an operation is missing. -/
def Fault.IsSupported : Fault → Prop
  | .gateway e => e.kind ≠ .unsupportedOperation
  | _ => True

theorem Fault.IsLocal.supported {f : Fault} (h : f.IsLocal) : f.IsSupported := by
  cases f with
  | gateway e =>
    intro hkind
    rw [IsLocal, hkind] at h
    simp at h
  | conversion c => trivial
  | foreign f => trivial

/-- That a delivery does not end in a failure that says that an operation is missing. -/
def Delivery.IsSupported {α : Type} (d : Delivery α) : Prop :=
  ∀ failure ∈ d.failure, failure.toFault.IsSupported

/-- That an invoker does not fail with an error that says that an operation is missing. -/
structure Invoker.IsSupported (invoker : Invoker) : Prop where
  invoke : ∀ before r failure, invoker.invoke before r = .error failure →
    failure.toFault.IsSupported
  invokeStream : ∀ before r, (invoker.invokeStream before r).IsSupported
  converse : ∀ before request failure, invoker.converse before request = .error failure →
    failure.toFault.IsSupported
  converseStream : ∀ before request, (invoker.converseStream before request).IsSupported

/-! ## Sessions -/

/-- That an action, whatever was called before it, does not fail for want of an operation, and gives
only results of which something is true. -/
def Session.Supported {α : Type} (action : Session α) (post : α → Prop) : Prop :=
  ∀ j, match (action.run j).1 with
    | .error f => f.IsSupported
    | .ok a => post a

namespace Session.Supported

variable {α β : Type} {action : Session α} {post : α → Prop} {post' : β → Prop}

theorem pure {a : α} (h : post a) : Supported (pure a) post := fun _ => h

theorem failsOnly (h : Supported action post) (j : Journal) :
    FailsOnly Fault.IsSupported (action.run j).1 := by
  intro f hf
  have hj := h j
  rwa [hf] at hj

theorem ofOutcome_post {outcome : Except Fault α} (h : FailsOnly Fault.IsSupported outcome)
    (hpost : ∀ a, outcome = .ok a → post a) : Supported (Session.ofOutcome outcome) post := by
  intro j
  rw [run_ofOutcome]
  cases outcome with
  | error f => exact h f rfl
  | ok a => exact hpost a rfl

theorem ofOutcome {outcome : Except Fault α} (h : FailsOnly Fault.IsSupported outcome) :
    Supported (Session.ofOutcome outcome) fun _ => True := ofOutcome_post h fun _ _ => trivial

theorem bind {next : α → Session β} (h : Supported action post)
    (hnext : ∀ a, post a → Supported (next a) post') : Supported (action >>= next) post' := by
  intro j
  have hj := h j
  rw [run_bind]
  rcases hrun : action.run j with ⟨f | a, j'⟩
  · rwa [hrun] at hj
  · rw [hrun] at hj
    exact hnext a hj j'

theorem map {f : α → β} (h : Supported action fun a => post' (f a)) :
    Supported (f <$> action) post' := by
  rw [← bind_pure_comp]
  exact h.bind fun _ => pure

theorem mapM {action : α → Session β} (h : ∀ a, Supported (action a) fun _ => True)
    (items : List α) : Supported (items.mapM action) fun _ => True := by
  induction items with
  | nil => exact pure trivial
  | cons a rest ih =>
    rw [List.mapM_cons]
    exact (h a).bind fun _ _ => ih.bind fun _ _ => pure trivial

end Session.Supported

/-! ## Clients -/

/-- An operation that the adapter has is not refused. -/
theorem Adapter.offer_supported {α β : Type} {a : Adapter} {capability : Capability}
    {operation : Option α} {use : α → Except Fault β}
    (h : ∀ f ∈ operation, ModelGateway.FailsOnly Fault.IsSupported (use f))
    (hsome : operation.isSome = true) :
    ModelGateway.FailsOnly Fault.IsSupported (a.offer capability operation >>= use) := by
  refine offer_bind h ?_
  rintro rfl
  cases hsome

namespace Client

variable {capability : Capability}

/-- What a client has from the check that it was made with: its route declares the capability, and
has an adapter for everything that it declares. -/
structure Checked (c : Client capability) : Prop where
  declared : c.route.supports capability = true
  backed : ∀ cap, c.route.supports cap = true → c.route.adapter.implements cap = true
  /-- What the adapter has does not itself say that an operation is missing. -/
  honest : c.route.adapter.FailsOnly Fault.IsSupported

theorem quiet_supported {action : Session Unit} (h : Quiet action) :
    action.Supported fun _ => True := by
  intro j
  obtain ⟨j', hrun, _⟩ := h j
  rw [hrun]
  trivial

theorem record_supported (call : Call) : (Session.record call).Supported fun _ => True :=
  fun _ => trivial

theorem fail_supported {α : Type} (c : Client capability) (operation : String) {failure : Failure}
    (h : failure.toFault.IsSupported) (post : α → Prop) :
    (c.fail operation failure : Session α).Supported post := by
  intro j
  rw [run_fail]
  cases failure with
  | gateway e => exact h
  | foreign f => exact nofun

theorem notWritable_supported : Failure.notWritable.toFault.IsSupported := trivial

theorem invoke_supported (c : Client capability) {invoker : Invoker} (h : invoker.IsSupported)
    (payload : Object) : (c.invoke invoker payload).Supported fun _ => True := by
  unfold invoke
  split
  · refine (record_supported _).bind fun before _ => ?_
    split
    · exact .pure trivial
    · rename_i failure hfailure
      exact c.fail_supported _ (h.invoke _ _ _ hfailure) _
  · exact c.fail_supported _ notWritable_supported _

theorem embeddingTexts_local (texts : Value) : FailsOnly Fault.IsLocal (embeddingTexts texts) := by
  unfold embeddingTexts
  split
  · exact .ok _
  · split
    · exact Fault.ofConversion_local _
    · exact .error (.inl rfl)

section
variable {invoker : Invoker} (h : invoker.IsSupported)
include h

theorem generate_supported {c : Client .textGeneration} (hc : c.Checked) (prompt : Value)
    (settings : Settings) : (c.generate invoker prompt settings).Supported fun _ => True := by
  obtain ⟨htext, hcompletions⟩ : c.route.adapter.textRequest?.isSome = true ∧
      c.route.adapter.completions?.isSome = true := by
    simpa [Adapter.implements] using hc.backed _ hc.declared
  refine (Session.Supported.ofOutcome ?_).bind fun payload _ =>
    (c.invoke_supported h payload).bind fun body _ =>
      (Session.Supported.ofOutcome ?_).bind fun completions _ => ?_
  · exact Adapter.offer_supported (fun f hf => hc.honest.textRequest f hf _ _ _) htext
  · exact Adapter.offer_supported (fun f hf => hc.honest.completions f hf _ _ _) hcompletions
  · exact (quiet_supported (c.quiet_forM_logDiscarded completions)).bind fun _ _ => .pure trivial

theorem complete_supported {c : Client .chat} (hc : c.Checked) (turns : List Turn)
    (settings : Settings) : (c.complete invoker turns settings).Supported fun _ => True := by
  have hconverse : c.route.adapter.converseRequest?.isSome = true :=
    hc.backed _ hc.declared
  refine (Session.Supported.ofOutcome ?_).bind fun request _ =>
    (record_supported _).bind fun before _ => ?_
  · exact Adapter.offer_supported (fun f hf => hc.honest.converseRequest f hf _ _ _) hconverse
  · split
    · exact .ofOutcome ((Fault.ofConversion_local _).mono fun _ => Fault.IsLocal.supported)
    · rename_i failure hfailure
      exact c.fail_supported _ (h.converse _ _ _ hfailure) _

theorem embed_supported {c : Client .embedding} (hc : c.Checked) (texts : Value) :
    (c.embed invoker texts).Supported fun _ => True := by
  obtain ⟨hrequest, hembedding⟩ : c.route.adapter.embeddingRequest?.isSome = true ∧
      c.route.adapter.embedding?.isSome = true := by
    simpa [Adapter.implements] using hc.backed _ hc.declared
  have htexts := (embeddingTexts_local texts).mono fun _ => Fault.IsLocal.supported
  refine (Session.Supported.ofOutcome htexts).bind fun items _ => .mapM (fun text => ?_) items
  refine (Session.Supported.ofOutcome ?_).bind fun payload _ =>
    (c.invoke_supported h payload).bind fun body _ => .ofOutcome ?_
  · exact Adapter.offer_supported (fun f hf => hc.honest.embeddingRequest f hf _ _) hrequest
  · exact Adapter.offer_supported (fun f hf => hc.honest.embedding f hf _ _) hembedding

theorem generateImage_supported {c : Client .textToImage} (hc : c.Checked)
    (description width height : Value) (settings : Settings) :
    (c.generateImage invoker description width height settings).Supported fun _ => True := by
  obtain ⟨hrequest, himage⟩ : c.route.adapter.imageRequest?.isSome = true ∧
      c.route.adapter.image?.isSome = true := by
    simpa [Adapter.implements] using hc.backed _ hc.declared
  have hside : ∀ side v, FailsOnly Fault.IsSupported (checkSide side v) := fun side v =>
    (checkSide_local side v).mono fun _ => Fault.IsLocal.supported
  refine (Session.Supported.ofOutcome (hside _ _)).bind fun _ _ =>
    (Session.Supported.ofOutcome (hside _ _)).bind fun _ _ =>
      (Session.Supported.ofOutcome ?_).bind fun payload _ =>
        (c.invoke_supported h payload).bind fun body _ =>
          (Session.Supported.ofOutcome ?_).bind fun result _ => ?_
  · exact Adapter.offer_supported (fun f hf => hc.honest.imageRequest f hf _ _ _ _ _) hrequest
  · exact Adapter.offer_supported (fun f hf => hc.honest.image f hf _ _) himage
  · dsimp only
    split
    · exact (quiet_supported (c.quiet_log _ _)).bind fun _ _ => .pure trivial
    · exact .pure trivial

end

end Client

/-! ## Streams -/

theorem Delivery.advance_failsOnly {α : Type} {p : Fault → Prop}
    {decode : α → Except Fault (Option String)} (h : ∀ item, FailsOnly p (decode item))
    (items : List α) : FailsOnly p (advance decode items) := by
  induction items with
  | nil => exact .ok _
  | cons item rest ih =>
    rw [advance]
    have hitem := h item
    cases hdecode : decode item with
    | error f => exact .error (hitem f hdecode)
    | ok fragment =>
      cases fragment with
      | none => exact ih
      | some t => exact .ok _

/-- That a stream in hand can be read on: chunks need an adapter that finds fragments in them. -/
def Stream.Supported (a : Adapter) : Stream → Prop
  | .opened (.text _) => a.fragment?.isSome = true
  | .opened (.chat _) => True
  | .chunks rest => a.fragment?.isSome = true ∧ rest.IsSupported
  | .events rest => rest.IsSupported

namespace Client

variable {capability : Capability} {c : Client capability} {invoker : Invoker}

theorem textFragment_supported (hc : c.Checked) (hfragment : c.route.adapter.fragment?.isSome = true)
    (chunk : Body) : FailsOnly Fault.IsSupported (c.textFragment chunk) := by
  refine ((chunk.object_local c.strict).mono fun _ => Fault.IsLocal.supported).bind fun o => ?_
  exact Adapter.offer_supported (fun f hf => hc.honest.fragment f hf _) hfragment

theorem nextItem_supported {α : Type} (c : Client capability) (operation : String)
    {decode : α → Except Fault (Option String)} (wrap : Delivery α → Stream)
    (hdecode : ∀ item, FailsOnly Fault.IsSupported (decode item))
    (hwrap : ∀ d, d.IsSupported → (wrap d).Supported c.route.adapter) {d : Delivery α}
    (hd : d.IsSupported) : (c.nextItem operation decode wrap d).Supported fun item =>
      ∀ next ∈ item, next.2.Supported c.route.adapter := by
  refine (Session.Supported.ofOutcome (Delivery.advance_failsOnly hdecode d.items)).bind
    fun item _ => ?_
  split
  · rename_i fragment rest
    refine .pure ?_
    rintro _ ⟨⟩
    exact hwrap ⟨rest, d.failure⟩ hd
  · split
    · rename_i failure hfailure
      exact c.fail_supported operation (hd failure hfailure) _
    · exact .pure nofun

/-- One pull, from a stream that can be read on, leaves one that can be read on. -/
theorem next_supported (hc : c.Checked) (h : invoker.IsSupported) {stream : Stream}
    (hstream : stream.Supported c.route.adapter) : (c.next invoker stream).Supported fun item =>
      ∀ next ∈ item, next.2.Supported c.route.adapter := by
  have hchunks : c.route.adapter.fragment?.isSome = true → ∀ d : Delivery Body, d.IsSupported →
      (c.nextChunk d).Supported fun item => ∀ next ∈ item, next.2.Supported c.route.adapter :=
    fun hfragment d hd => c.nextItem_supported _ .chunks (textFragment_supported hc hfragment)
      (fun _ hrest => ⟨hfragment, hrest⟩) hd
  have hevents : ∀ d : Delivery Value, d.IsSupported →
      (c.nextEvent d).Supported fun item => ∀ next ∈ item, next.2.Supported c.route.adapter :=
    fun d hd => c.nextItem_supported _ .events (fun _ => .ok _) (fun _ hrest => hrest) hd
  cases stream with
  | opened stream =>
    cases stream with
    | text payload =>
      rw [next]
      split
      · exact (record_supported _).bind fun before _ =>
          hchunks hstream _ (h.invokeStream before _)
      · exact c.fail_supported _ notWritable_supported _
    | chat request =>
      exact (record_supported _).bind fun before _ => hevents _ (h.converseStream before request)
  | chunks rest => exact hchunks hstream.1 rest hstream.2
  | events rest => exact hevents rest hstream

end Client

/-! ## Lifetimes -/

/-- One use of a client. Each kind of client has its own, and any may have streams to pull from. -/
inductive Use : Capability → Type where
  | generate (prompt : Value) (settings : Settings) : Use .textGeneration
  | openText (prompt : Value) (settings : Settings) : Use .textGeneration
  | complete (turns : List Turn) (settings : Settings) : Use .chat
  | openChat (turns : List Turn) (settings : Settings) : Use .chat
  | embed (texts : Value) : Use .embedding
  | generateImage (description width height : Value) (settings : Settings) : Use .textToImage
  /-- Asks the stream that was opened as the `i`-th for its next fragment. -/
  | pull {capability : Capability} (i : Nat) : Use capability

inductive Gain where
  | completions (completions : List Completion)
  | replies (replies : List Reply)
  | vectors (vectors : List (List Binary64))
  | image (result : ImageResult)
  | opened
  /-- The next fragment of a stream; none once it has ended. -/
  | fragment (text : Option String)

/-- What has happened in the life of a client: its journal, and the streams that were opened, each as
far as it was pulled, or none where it has ended. -/
structure Lifetime where
  journal : Journal
  streams : List (Option Stream)

namespace Lifetime

def start : Lifetime := ⟨.empty, []⟩

def session (life : Lifetime) (action : Session Gain) : Except Fault Gain × Lifetime :=
  let (outcome, j) := action.run life.journal
  (outcome, { life with journal := j })

def opening (life : Lifetime) (outcome : Except Fault OpenStream) : Except Fault Gain × Lifetime :=
  match outcome with
  | .ok stream => (.ok .opened, { life with streams := life.streams ++ [some (.opened stream)] })
  | .error f => (.error f, life)

/-- A stream that has ended, or was never opened, gives nothing and leaves all as it is. -/
def pulling (life : Lifetime) (i : Nat) (next : Stream → Session (Option (String × Stream))) :
    Except Fault Gain × Lifetime :=
  match life.streams[i]? with
  | some (some stream) =>
    let (outcome, j) := (next stream).run life.journal
    match outcome with
    | .ok (some (text, rest)) =>
      (.ok (.fragment (some text)), ⟨j, life.streams.set i (some rest)⟩)
    | .ok none => (.ok (.fragment none), ⟨j, life.streams.set i none⟩)
    | .error f => (.error f, ⟨j, life.streams.set i none⟩)
  | _ => (.ok (.fragment none), life)

/-- That every stream in hand can be read on. -/
def Supported (a : Adapter) (life : Lifetime) : Prop :=
  ∀ stream, some stream ∈ life.streams → stream.Supported a

end Lifetime

namespace Client

def perform (invoker : Invoker) (life : Lifetime) : {capability : Capability} →
    Client capability → Use capability → Except Fault Gain × Lifetime
  | _, c, .generate prompt settings =>
    life.session (.completions <$> c.generate invoker prompt settings)
  | _, c, .openText prompt settings => life.opening (c.openText prompt settings)
  | _, c, .complete turns settings => life.session (.replies <$> c.complete invoker turns settings)
  | _, c, .openChat turns settings => life.opening (c.openChat turns settings)
  | _, c, .embed texts => life.session (.vectors <$> c.embed invoker texts)
  | _, c, .generateImage description width height settings =>
    life.session (.image <$> c.generateImage invoker description width height settings)
  | _, c, .pull i => life.pulling i (c.next invoker)

/-- What has happened after uses of a client, one after another, whatever became of each. -/
def after (c : Client capability) (invoker : Invoker) (uses : List (Use capability)) : Lifetime :=
  uses.foldl (fun life use => (c.perform invoker life use).2) .start

end Client

/-- The capability that a use takes besides the client's own. -/
def Use.streaming? {capability : Capability} : Use capability → Option Capability
  | .openText .. => some .textStreaming
  | .openChat .. => some .chatStreaming
  | _ => none

/-- The capability that a use takes and a route does not declare. -/
def Use.missing? {capability : Capability} (use : Use capability) (r : Route) : Option Capability :=
  use.streaming?.filter fun cap => !r.supports cap

theorem Use.missing?_eq_some {capability : Capability} {use : Use capability} {r : Route}
    {cap : Capability} :
    use.missing? r = some cap ↔ use.streaming? = some cap ∧ r.supports cap = false := by
  simp [missing?, Option.filter_eq_some_iff]

/-! ## One use -/

namespace Lifetime

variable {life : Lifetime} {a : Adapter}

theorem session_supported {α : Type} {action : Session α} (gain : α → Gain)
    (hlife : life.Supported a) (h : action.Supported fun _ => True) :
    (life.session (gain <$> action)).2.Supported a ∧
      FailsOnly Fault.IsSupported (life.session (gain <$> action)).1 := by
  have hgain : Session.Supported (gain <$> action) fun _ => True := h.map
  exact ⟨hlife, hgain.failsOnly life.journal⟩

theorem opening_supported {outcome : Except Fault OpenStream} (hlife : life.Supported a)
    (h : FailsOnly Fault.IsSupported outcome)
    (hstream : ∀ stream, outcome = .ok stream → (Stream.opened stream).Supported a) :
    (life.opening outcome).2.Supported a ∧
      FailsOnly Fault.IsSupported (life.opening outcome).1 := by
  cases outcome with
  | error f => exact ⟨hlife, .error (h f rfl)⟩
  | ok stream =>
    refine ⟨?_, .ok _⟩
    intro s hs
    rcases List.mem_append.mp hs with hs | hs
    · exact hlife s hs
    · obtain rfl := Option.some.inj (List.mem_singleton.mp hs)
      exact hstream stream rfl

theorem set_supported {j : Journal} {i : Nat} {stream : Option Stream} (hlife : life.Supported a)
    (h : ∀ s ∈ stream, s.Supported a) :
    Lifetime.Supported a ⟨j, life.streams.set i stream⟩ := by
  intro s hs
  rcases List.mem_or_eq_of_mem_set hs with hs | rfl
  · exact hlife s hs
  · exact h s rfl

theorem pulling_supported {i : Nat} {next : Stream → Session (Option (String × Stream))}
    (hlife : life.Supported a)
    (h : ∀ stream, stream.Supported a →
      (next stream).Supported fun item => ∀ next ∈ item, next.2.Supported a) :
    (life.pulling i next).2.Supported a ∧ FailsOnly Fault.IsSupported (life.pulling i next).1 := by
  unfold pulling
  split
  · rename_i stream hstream
    have hpull := h stream (hlife stream (List.mem_of_getElem? hstream)) life.journal
    rcases hrun : (next stream).run life.journal with ⟨f | item, j⟩
    · rw [hrun] at hpull
      exact ⟨set_supported hlife nofun, .error hpull⟩
    · rw [hrun] at hpull
      cases item with
      | none => exact ⟨set_supported hlife nofun, .ok _⟩
      | some item =>
        obtain ⟨text, rest⟩ := item
        refine ⟨set_supported hlife ?_, .ok _⟩
        rintro _ ⟨⟩
        exact hpull _ rfl
  · exact ⟨hlife, .ok _⟩

end Lifetime

namespace Client

variable {capability : Capability} {c : Client capability} {invoker : Invoker} {life : Lifetime}

theorem require_of_not_supports {r : Route} {cap : Capability} (h : r.supports cap = false) :
    r.require cap = .error (.unsupportedOperation r.provider cap.name) := by
  rw [Route.require, h]
  rfl

theorem require_of_supports {r : Route} {cap : Capability} (h : r.supports cap = true) :
    r.require cap = .ok r := if_pos h

/-- A stream that the route does not declare is refused before there is one. -/
theorem perform_of_missing {use : Use capability} {cap : Capability}
    (h : use.missing? c.route = some cap) :
    c.perform invoker life use =
      (.error (.gateway (.unsupportedOperation c.route.provider cap.name)), life) := by
  obtain ⟨hstreaming, hsupports⟩ := Use.missing?_eq_some.mp h
  cases use with
  | openText prompt settings =>
    obtain rfl := Option.some.inj hstreaming
    rw [perform, openText, require_of_not_supports hsupports]
    rfl
  | openChat turns settings =>
    obtain rfl := Option.some.inj hstreaming
    rw [perform, openChat, require_of_not_supports hsupports]
    rfl
  | _ => cases hstreaming

theorem openText_supported {c : Client .textGeneration} (hc : c.Checked)
    (hsupports : c.route.supports .textStreaming = true) (prompt : Value) (settings : Settings) :
    FailsOnly Fault.IsSupported (c.openText prompt settings) ∧
      ∀ stream, c.openText prompt settings = .ok stream →
        (Stream.opened stream).Supported c.route.adapter := by
  obtain ⟨htext, hfragment⟩ : c.route.adapter.textRequest?.isSome = true ∧
      c.route.adapter.fragment?.isSome = true := by
    simpa [Adapter.implements] using hc.backed _ hsupports
  have hrequest : FailsOnly Fault.IsSupported
      (c.route.adapter.textRequest c.modelId prompt settings) :=
    Adapter.offer_supported (fun f hf => hc.honest.textRequest f hf _ _ _) htext
  constructor
  · rw [openText, require_of_supports hsupports]
    exact hrequest.bind fun _ => .ok _
  · intro stream hstream
    obtain ⟨_, payload, _, rfl⟩ := of_openText hstream
    exact hfragment

theorem openChat_supported {c : Client .chat} (hc : c.Checked)
    (hsupports : c.route.supports .chatStreaming = true) (turns : List Turn) (settings : Settings) :
    FailsOnly Fault.IsSupported (c.openChat turns settings) ∧
      ∀ stream, c.openChat turns settings = .ok stream →
        (Stream.opened stream).Supported c.route.adapter := by
  have hconverse : c.route.adapter.converseRequest?.isSome = true := hc.backed _ hsupports
  have hrequest : FailsOnly Fault.IsSupported
      (c.route.adapter.converseRequest c.modelId turns settings) :=
    Adapter.offer_supported (fun f hf => hc.honest.converseRequest f hf _ _ _) hconverse
  constructor
  · rw [openChat, require_of_supports hsupports]
    exact hrequest.bind fun _ => .ok _
  · intro stream hstream
    obtain ⟨_, request, _, rfl⟩ := of_openChat hstream
    trivial

/-- A use for which the route declares what it takes does not fail for want of an operation, and
leaves only streams that can be read on. -/
theorem perform_supported (hc : c.Checked) (h : invoker.IsSupported)
    (hlife : life.Supported c.route.adapter) {use : Use capability}
    (hmissing : use.missing? c.route = none) :
    (c.perform invoker life use).2.Supported c.route.adapter ∧
      FailsOnly Fault.IsSupported (c.perform invoker life use).1 := by
  have hdeclared : ∀ cap, use.streaming? = some cap → c.route.supports cap = true := by
    intro cap hcap
    rw [Use.missing?, hcap] at hmissing
    simpa [Option.filter] using hmissing
  cases use with
  | generate prompt settings =>
    exact Lifetime.session_supported .completions hlife (generate_supported h hc prompt settings)
  | openText prompt settings =>
    obtain ⟨hfails, hstream⟩ := openText_supported hc (hdeclared _ rfl) prompt settings
    exact Lifetime.opening_supported hlife hfails hstream
  | complete turns settings =>
    exact Lifetime.session_supported .replies hlife (complete_supported h hc turns settings)
  | openChat turns settings =>
    obtain ⟨hfails, hstream⟩ := openChat_supported hc (hdeclared _ rfl) turns settings
    exact Lifetime.opening_supported hlife hfails hstream
  | embed texts => exact Lifetime.session_supported .vectors hlife (embed_supported h hc texts)
  | generateImage description width height settings =>
    exact Lifetime.session_supported .image hlife
      (generateImage_supported h hc description width height settings)
  | pull i => exact Lifetime.pulling_supported hlife fun _ => next_supported hc h

/-! ## A lifetime -/

theorem after_supported (hc : c.Checked) (h : invoker.IsSupported) (uses : List (Use capability)) :
    (c.after invoker uses).Supported c.route.adapter := by
  unfold after
  have hstart : Lifetime.start.Supported c.route.adapter := nofun
  generalize Lifetime.start = life at hstart
  induction uses generalizing life with
  | nil => exact hstart
  | cons use rest ih =>
    refine ih _ ?_
    change (c.perform invoker life use).2.Supported c.route.adapter
    cases hmissing : use.missing? c.route with
    | some cap => rwa [perform_of_missing hmissing]
    | none => exact (perform_supported hc h hstart hmissing).1

variable {registry : Registry} {modelId : String} {strict logEvents : Bool}

/-- A client is made for the route that is found, if that declares the client's capability. -/
theorem bind_eq (capability : Capability) (registry : Registry) (modelId : String)
    (strict logEvents : Bool) :
    bind capability registry modelId strict logEvents =
      (registry.find (.text modelId)).bind fun route =>
        if route.supports capability then .ok ⟨modelId, route, strict, logEvents⟩
        else .error (.unsupportedOperation route.provider capability.name) := by
  unfold bind Registry.resolve
  cases registry.find (.text modelId) with
  | error e => rfl
  | ok route =>
    cases hsupports : route.supports capability with
    | true =>
      change (route.require capability).map _ = _
      rw [require_of_supports hsupports]
      simp [Except.map, Except.bind, hsupports]
    | false =>
      change (route.require capability).map _ = _
      rw [require_of_not_supports hsupports]
      simp [Except.map, Except.bind, hsupports]

theorem of_bind {c : Client capability}
    (h : bind capability registry modelId strict logEvents = .ok c) :
    registry.find (.text modelId) = .ok c.route ∧ c.route.supports capability = true := by
  rw [bind_eq] at h
  cases hfind : registry.find (.text modelId) with
  | error e =>
    rw [hfind] at h
    cases h
  | ok route =>
    rw [hfind] at h
    change (if _ then _ else _) = _ at h
    split at h
    · rename_i hsupports
      rw [← Except.ok.inj h]
      exact ⟨rfl, hsupports⟩
    · cases h

/-- Making a client fails as the look-up does, or because the route that is found does not declare
the client's capability. -/
theorem bind_error_iff {e : GatewayError} :
    bind capability registry modelId strict logEvents = .error e ↔
      registry.find (.text modelId) = .error e ∨
        ∃ route, registry.find (.text modelId) = .ok route ∧ route.supports capability = false ∧
          e = .unsupportedOperation route.provider capability.name := by
  rw [bind_eq]
  cases registry.find (.text modelId) with
  | error why => simp [Except.bind]
  | ok route =>
    change (if _ then _ else _) = _ ↔ _
    cases hsupports : route.supports capability with
    | true => simp [hsupports]
    | false =>
      simp only [Bool.false_eq_true, if_false, reduceCtorEq, Except.error.injEq, Except.ok.injEq,
        false_or]
      constructor
      · rintro rfl
        exact ⟨route, rfl, hsupports, rfl⟩
      · rintro ⟨_, rfl, _, rfl⟩
        rfl

theorem checked_of_bind {origin : Registry.Origin} {calls : List Route} {c : Client capability}
    (hadapters : ∀ r ∈ calls, r.adapter.FailsOnly Fault.IsSupported)
    (h : bind capability (origin.registry.afterCalls calls) modelId strict logEvents = .ok c) :
    c.Checked := by
  obtain ⟨hfind, hsupports⟩ := of_bind h
  refine ⟨hsupports, Registry.backed_of_find (origin.sound calls) hfind, ?_⟩
  rcases origin.adapter_of_find hfind with hstandard | ⟨r, hr, hadapter⟩
  · exact (Adapter.failsLocal_of_standard hstandard).mono fun _ => Fault.IsLocal.supported
  · rw [hadapter]
    exact hadapters r hr

/-- After every history of registrations, making a client fails as the look-up does, or for want of
the client's capability in the route that is found. A client that was made never fails for want of an
operation, whatever it was used for before, unless it is to open a stream that its route does not
declare; then it is refused, and nothing is opened and nothing called. -/
theorem lacks_undeclared_streams_only (origin : Registry.Origin) (calls : List Route)
    (capability : Capability) (modelId : String) (strict logEvents : Bool) (invoker : Invoker)
    (hadapters : ∀ r ∈ calls, r.adapter.FailsOnly Fault.IsSupported)
    (hinvoker : invoker.IsSupported) :
    let registry := origin.registry.afterCalls calls
    let made := bind capability registry modelId strict logEvents
    (∀ e, made = .error e ∧ e.kind = .unsupportedModel ↔
      registry.find (.text modelId) = .error e) ∧
    (∀ e, made = .error e ∧ e.kind = .unsupportedOperation ↔
      ∃ route, registry.find (.text modelId) = .ok route ∧ route.supports capability = false ∧
        e = .unsupportedOperation route.provider capability.name) ∧
    ∀ c, made = .ok c → ∀ (uses : List (Use capability)) (use : Use capability),
      let life := c.after invoker uses
      match use.missing? c.route with
      | some cap => c.perform invoker life use =
          (.error (.gateway (.unsupportedOperation c.route.provider cap.name)), life)
      | none => FailsOnly Fault.IsSupported (c.perform invoker life use).1 := by
  intro registry made
  have hkind : ∀ e, registry.find (.text modelId) = .error e → e.kind = .unsupportedModel :=
    fun e he => (Registry.of_find_error (origin.sound calls) he).1
  refine ⟨?_, ?_, ?_⟩
  · intro e
    rw [bind_error_iff]
    constructor
    · rintro ⟨hfind | ⟨route, _, _, rfl⟩, he⟩
      · exact hfind
      · cases he
    · intro hfind
      exact ⟨.inl hfind, hkind e hfind⟩
  · intro e
    rw [bind_error_iff]
    constructor
    · rintro ⟨hfind | hlacks, he⟩
      · cases (hkind e hfind).symm.trans he
      · exact hlacks
    · rintro ⟨route, hfind, hsupports, rfl⟩
      exact ⟨.inr ⟨route, hfind, hsupports, rfl⟩, rfl⟩
  · intro c hmade uses use life
    have hc := checked_of_bind hadapters hmade
    cases hmissing : use.missing? c.route with
    | some cap => exact perform_of_missing hmissing
    | none => exact (perform_supported hc hinvoker (after_supported hc hinvoker uses) hmissing).2

/-- A route whose adapter has the operations for whole texts only. -/
def wordsRoute : Route :=
  .make "words" "w" { Adapter.bare "WordsIO" "words" with
      textRequest? := some fun _ prompt _ => .ok [("prompt", prompt)]
      completions? := some fun modelId _ _ => .ok [⟨"word", modelId, .null, []⟩] }
    [.textGeneration]

def words : Client .textGeneration where
  modelId := "words.w-1"
  route := { wordsRoute with modelId := some ⟨"words.w-1", "words", "w-1", none, none⟩ }
  strict := false
  logEvents := true

theorem words_lack_streams_only :
    (∀ r ∈ [wordsRoute], r.adapter.FailsOnly Fault.IsSupported) ∧ oneChunk.IsSupported ∧
    bind .textGeneration (Registry.Origin.empty.registry.afterCalls [wordsRoute]) "words.w-1" false
      true = .ok words ∧
    FailsOnly Fault.IsSupported (words.perform oneChunk
      (words.after oneChunk [.openText (.text "hi") none]) (.generate (.text "hi") none)).1 ∧
    words.perform oneChunk (words.after oneChunk [.generate (.text "hi") none])
        (.openText (.text "hi") none) =
      (.error (.gateway (.unsupportedOperation "words" "text_streaming")),
        words.after oneChunk [.generate (.text "hi") none]) := by
  have hadapters : ∀ r ∈ [wordsRoute], r.adapter.FailsOnly Fault.IsSupported := by
    refine List.forall_mem_singleton.mpr ⟨?_, ?_, nofun, nofun, nofun, nofun, nofun, nofun⟩
    · rintro _ ⟨⟩ modelId prompt settings
      exact .ok _
    · rintro _ ⟨⟩ modelId body strict
      exact .ok _
  have hinvoker : oneChunk.IsSupported := ⟨nofun, fun _ _ => nofun, nofun, fun _ _ => nofun⟩
  have hmade : bind .textGeneration (Registry.Origin.empty.registry.afterCalls [wordsRoute])
      "words.w-1" false true = .ok words := by rfl
  obtain ⟨_, _, huses⟩ := lacks_undeclared_streams_only .empty [wordsRoute] .textGeneration
    "words.w-1" false true oneChunk hadapters hinvoker
  exact ⟨hadapters, hinvoker, hmade,
    huses words hmade [.openText (.text "hi") none] (.generate (.text "hi") none),
    huses words hmade [.generate (.text "hi") none] (.openText (.text "hi") none)⟩

end Client

end ModelGateway
