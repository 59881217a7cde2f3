import ModelGateway.Proofs.Client.Stream
import ModelGateway.Service

/-!
# Streams over the model service

The service answers a stream call with events, of which an invoker hands on the bytes that are not
empty, in order, and then the failure if there is one. A client asks its invoker for one delivery,
so a stream over the service is a stream over any invoker that delivers these bytes, pull by pull.
-/
namespace ModelGateway

namespace StreamEvent

/-- That a chunk which counts as present is an object. One that is not makes a failure of its own. -/
def Proper : StreamEvent → Prop
  | .chunk _ => True
  | .other v => (v.member "chunk").isTruthy = true → (v.member "chunk").isObject = true

instance : DecidablePred Proper
  | .chunk _ => inferInstanceAs (Decidable True)
  | .other _ => inferInstanceAs (Decidable (_ → _))

/-- What an event has as the bytes of its chunk. -/
def bytes? : StreamEvent → Option Body
  | .chunk bytes => some bytes
  | .other v =>
    match v.member "chunk" with
    | .object o => (Object.value? o "bytes").map .value
    | _ => none

/-- The bytes of events, in order, without those that are empty. -/
def nonEmptyBytes (events : List StreamEvent) : List Body :=
  (events.filterMap bytes?).filter Body.isTruthy

theorem nonEmptyBytes_cons (event : StreamEvent) (events : List StreamEvent) :
    nonEmptyBytes (event :: events) =
      (event.bytes?.filter Body.isTruthy).toList ++ nonEmptyBytes events := by
  unfold nonEmptyBytes
  rw [List.filterMap_cons]
  cases event.bytes? with
  | none => rfl
  | some bytes =>
    dsimp only
    rw [Option.filter_some, List.filter_cons]
    split <;> rfl

theorem chunk?_of_proper {event : StreamEvent} (h : event.Proper) :
    event.chunk? = .ok (event.bytes?.filter Body.isTruthy) := by
  cases event with
  | chunk bytes => rw [chunk?, bytes?, Option.filter_some]
  | other v =>
    change (v.member "chunk").isTruthy = true → (v.member "chunk").isObject = true at h
    unfold chunk? bytes?
    dsimp only
    generalize v.member "chunk" = c at h ⊢
    cases c with
    | object o =>
      dsimp only
      rw [Object.value]
      cases Object.value? o "bytes" with
      | none => rfl
      | some bytes => rfl
    | _ =>
      -- What is no object does not count as present, so it is passed over.
      dsimp only
      rw [if_neg fun hpresent => Bool.false_ne_true (h hpresent)]
      rfl

end StreamEvent

namespace Service

/-- What the service's answer to a stream call comes to: the bytes of its events that are not empty,
and the failure of the call or of a later event. -/
def handedOn : Except Failure (Delivery StreamEvent) → Delivery Body
  | .ok d => ⟨StreamEvent.nonEmptyBytes d.items, d.failure⟩
  | .error failure => ⟨[], some failure⟩

theorem chunks_of_proper (failure : Option Failure) {events : List StreamEvent}
    (h : ∀ event ∈ events, event.Proper) :
    chunks failure events = ⟨StreamEvent.nonEmptyBytes events, failure⟩ := by
  induction events with
  | nil => rfl
  | cons event rest ih =>
    obtain ⟨hevent, hrest⟩ := List.forall_mem_cons.mp h
    rw [chunks, StreamEvent.chunk?_of_proper hevent, ih hrest, StreamEvent.nonEmptyBytes_cons]
    cases event.bytes?.filter Body.isTruthy with
    | none => rfl
    | some bytes => rfl

theorem invokeStream_of_proper {s : Service} {before : List Call} {request : ModelRequest}
    (h : ∀ d, s.invokeStream before request = .ok d → ∀ event ∈ d.items, event.Proper) :
    s.invoker.invokeStream before request = handedOn (s.invokeStream before request) := by
  change deliver _ (s.invokeStream before request) = _
  cases hanswer : s.invokeStream before request with
  | error failure => rfl
  | ok d => exact chunks_of_proper d.failure (h d hanswer)

end Service

namespace Client

variable {capability : Capability}

/-- A stream of text asks its invoker for one thing: the delivery for its one call. -/
theorem run_pull_congr (c : Client capability) {invoker invoker' : Invoker} {payload : Object}
    {j : Journal} (h : invoker.invokeStream j.calls (c.modelRequest payload) =
      invoker'.invokeStream j.calls (c.modelRequest payload)) (limit : Option Nat) :
    (c.pull invoker (.text payload) limit).run j =
      (c.pull invoker' (.text payload) limit).run j := by
  cases hwrite : Object.canWrite payload with
  | false =>
    match limit with
    | none =>
      rw [pull, pull, pullAll, pullAll, run_proceed_of_not_writable hwrite,
        run_proceed_of_not_writable hwrite]
    | some 0 => rfl
    | some (n + 1) =>
      rw [pull, pull, pullUpTo, pullUpTo, run_proceed_of_not_writable hwrite,
        run_proceed_of_not_writable hwrite]
  | true =>
    have hanswered := c.answered_text invoker hwrite j
    have hanswered' := c.answered_text invoker' hwrite j
    rw [h] at hanswered
    match limit with
    | none =>
      rw [run_pull_all (c.continues_chunks invoker) hanswered,
        run_pull_all (c.continues_chunks invoker') hanswered']
    | some 0 => rfl
    | some (n + 1) =>
      rw [run_pull_of_answered (c.continues_chunks invoker) hanswered,
        run_pull_of_answered (c.continues_chunks invoker') hanswered']

/-- Opens a stream of text and pulls at most `limit` fragments from it, or all of them. -/
def textStream (c : Client .textGeneration) (invoker : Invoker) (prompt : Value)
    (settings : Settings) (limit : Option Nat) : Session (List String × Except Fault StreamEnd) := do
  let stream ← Session.ofOutcome (c.openText prompt settings)
  ExceptT.lift (c.pull invoker stream limit)

/-- A stream over the service gives what it would give over any invoker that delivers the bytes of
the service's events: the fragments, the end or the failure after them, and the journal, for any
number of pulls. The first pull makes the one call, for the client's model and with the payload as
its body; a payload that cannot be written is never sent. -/
theorem streams_hand_on_bytes (c : Client .textGeneration) (s : Service) (relay : Invoker)
    (prompt : Value) (settings : Settings) (j : Journal)
    (hproper : ∀ request d, s.invokeStream j.calls request = .ok d →
      ∀ event ∈ d.items, event.Proper)
    (hrelay : ∀ request, relay.invokeStream j.calls request =
      Service.handedOn (s.invokeStream j.calls request)) :
    (∀ limit, (c.textStream s.invoker prompt settings limit).run j =
      (c.textStream relay prompt settings limit).run j) ∧
    ∀ stream, c.openText prompt settings = .ok stream → ∃ payload,
      c.route.adapter.textRequest c.modelId prompt settings = .ok payload ∧
      (Object.canWrite payload = true →
        c.Streams s.invoker stream
          (.invokeStream ⟨c.modelId, "*/*", "application/json", Object.encodeBody payload⟩)
          c.textFragment (Service.handedOn (s.invokeStream j.calls (c.modelRequest payload))) j) ∧
      (Object.canWrite payload = false → c.Unsent s.invoker stream .notWritable j) := by
  have hservice := fun request => Service.invokeStream_of_proper (hproper request)
  constructor
  · intro limit
    unfold textStream
    rw [run_bind, run_bind, Session.run_ofOutcome]
    cases hopen : c.openText prompt settings with
    | error f => rfl
    | ok stream =>
      obtain ⟨_, payload, _, rfl⟩ := of_openText hopen
      have hsame := (hservice (c.modelRequest payload)).trans (hrelay (c.modelRequest payload)).symm
      dsimp only
      rw [Session.run_lift, Session.run_lift, c.run_pull_congr hsame limit]
  · intro stream hopen
    obtain ⟨_, payload, hpayload, rfl⟩ := of_openText hopen
    refine ⟨payload, hpayload, ?_, unsent_of_not_writable (j := j)⟩
    intro hwrite
    have hanswered := c.answered_text s.invoker hwrite j
    rw [hservice] at hanswered
    exact streams_of_answered (c.continues_chunks s.invoker) hanswered

/-- A service that breaks off after two words, with events among theirs that carry nothing. -/
def patchy : Service where
  invoke _ _ := .ok (.value .null)
  invokeStream _ _ := .ok ⟨[.other (.object [("metadata", .object [])]),
    .chunk (.octets (Object.encodeBody hel)), .other (.text "chunk"), .chunk (.octets []),
    .other (.object [("chunk", .object [("bytes", .object lo)])]),
    .other (.object [("chunk", .object [])])], some broken⟩
  converse _ _ := .ok .null
  converseStream _ _ := .ok ⟨[], none⟩
where
  hel : Object := [("text", .text "Hel")]
  lo : Object := [("text", .text "lo")]
  broken : Failure := .foreign ⟨"ConnectionError", "broken off"⟩

def twoWords : Invoker where
  invoke _ _ := .ok (.value .null)
  invokeStream _ _ :=
    ⟨[.octets (Object.encodeBody patchy.hel), .value (.object patchy.lo)], some patchy.broken⟩
  converse _ _ := .ok .null
  converseStream _ _ := ⟨[], none⟩

theorem patchy_stream_is_two_words :
    (∀ request d, patchy.invokeStream Journal.empty.calls request = .ok d →
      ∀ event ∈ d.items, event.Proper) ∧
    (∀ request, twoWords.invokeStream Journal.empty.calls request =
      Service.handedOn (patchy.invokeStream Journal.empty.calls request)) ∧
    (∀ limit, (commandR.textStream patchy.invoker (.text "hi") none limit).run .empty =
      (commandR.textStream twoWords (.text "hi") none limit).run .empty) ∧
    ((commandR.textStream patchy.invoker (.text "hi") none (some 2)).run .empty).1 =
      .ok (["Hel", "lo"], .ok .more) ∧
    ((commandR.textStream patchy.invoker (.text "hi") none none).run .empty).1 =
      .ok (["Hel", "lo"], .error (.gateway (.invocation commandR.modelId "broken off"
        (some ⟨"ConnectionError", "broken off"⟩)))) := by
  have hproper : ∀ request d, patchy.invokeStream Journal.empty.calls request = .ok d →
      ∀ event ∈ d.items, event.Proper := by
    rintro request d ⟨⟩
    decide
  have hrelay : ∀ request, twoWords.invokeStream Journal.empty.calls request =
      Service.handedOn (patchy.invokeStream Journal.empty.calls request) := fun _ => rfl
  have hsame := (streams_hand_on_bytes commandR patchy twoWords (.text "hi") none .empty hproper
    hrelay).1
  refine ⟨hproper, hrelay, hsame, ?_, ?_⟩
  · rw [hsame]
    decide +kernel
  · rw [hsame]
    decide +kernel

end Client
end ModelGateway
