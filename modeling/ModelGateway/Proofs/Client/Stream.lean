import ModelGateway.Proofs.Client.Delivery
import ModelGateway.Proofs.Client.Fragment
import ModelGateway.Proofs.Client.Session
import ModelGateway.Proofs.Run

/-!
# Streams are lazy and keep their order

Pulling a number of times gives that many of the fragments of a delivery, or all of them and then
the way the delivery ends. The call is made by the first pull, so a stream that is opened and not
pulled costs nothing, and a failure shows only when a pull gets to it.
-/
namespace ModelGateway

namespace Client

open Delivery (fragments refusal? advance_of_fragments_cons advance_of_fragments_nil)

variable {capability : Capability} {α : Type} (c : Client capability) (invoker : Invoker)

/-- How a delivery ends for its consumer, after the last fragment: with the first item that cannot
be decoded, else with the invoker's failure if there is one. -/
def ending (decode : α → Except Fault (Option String)) (d : Delivery α) : Except Fault StreamEnd :=
  match refusal? decode d.items, d.failure with
  | some f, _ => .error f
  | none, some failure => .error (c.surfaced failure)
  | none, none => .ok .finished

theorem eq_finished_of_ending {decode : α → Except Fault (Option String)} {d : Delivery α}
    {last : StreamEnd} (h : c.ending decode d = .ok last) : last = .finished := by
  unfold ending at h
  split at h
  · cases h
  · cases h
  · exact (Except.ok.inj h).symm

def endJournal (operation : String) (decode : α → Except Fault (Option String)) (d : Delivery α)
    (j : Journal) : Journal :=
  match refusal? decode d.items, d.failure with
  | none, some failure => c.noted operation j failure
  | _, _ => j

theorem endJournal_calls (operation : String) (decode : α → Except Fault (Option String))
    (d : Delivery α) (j : Journal) : (c.endJournal operation decode d j).calls = j.calls := by
  unfold endJournal
  split
  · exact c.noted_calls operation j _
  · rfl

variable {operation : String} {decode : α → Except Fault (Option String)} {wrap : Delivery α → Stream}

theorem run_nextItem_of_cons {d : Delivery α} {t : String} {ts : List String}
    (h : fragments decode d.items = t :: ts) (j : Journal) :
    ∃ rest : Delivery α, (c.nextItem operation decode wrap d).run j = (.ok (some (t, wrap rest)), j) ∧
      fragments decode rest.items = ts ∧ refusal? decode rest.items = refusal? decode d.items ∧
      rest.failure = d.failure := by
  obtain ⟨rest, hadv, hts, hrefusal⟩ := advance_of_fragments_cons h
  refine ⟨⟨rest, d.failure⟩, ?_, hts, hrefusal, rfl⟩
  unfold nextItem
  rw [run_bind, Session.run_ofOutcome, hadv]
  rfl

theorem run_nextItem_of_nil {d : Delivery α} (h : fragments decode d.items = []) (j : Journal) :
    (c.nextItem operation decode wrap d).run j =
      ((c.ending decode d).map fun _ => none, c.endJournal operation decode d j) := by
  unfold nextItem ending endJournal
  rw [run_bind, Session.run_ofOutcome, advance_of_fragments_nil h]
  cases refusal? decode d.items with
  | some f => rfl
  | none =>
    cases d.failure with
    | some failure => exact c.run_fail operation failure j
    | none => rfl

/-- Nothing is written down when an item has a fragment. -/
theorem journal_of_nextItem {d : Delivery α} {found : String × Stream} {j j' : Journal}
    (h : (c.nextItem operation decode wrap d).run j = (.ok (some found), j')) : j' = j := by
  cases hf : fragments decode d.items with
  | nil =>
    rw [run_nextItem_of_nil c hf] at h
    cases hend : c.ending decode d <;> rw [hend] at h <;> cases h
  | cons t ts =>
    obtain ⟨rest, hrun, -⟩ := run_nextItem_of_cons c hf j
    exact (Prod.mk.inj (hrun.symm.trans h)).2.symm

section Proceed

variable {stream : Stream} {goOn : Stream → StateM Journal (List String × Except Fault StreamEnd)}
  {j j' : Journal}

theorem run_proceed_of_error {f : Fault} (h : (c.next invoker stream).run j = (.error f, j')) :
    (c.proceed invoker stream goOn).run j = (([], .error f), j') := by
  unfold proceed
  rw [run_outcome_bind, h]
  rfl

theorem run_proceed_of_finished (h : (c.next invoker stream).run j = (.ok none, j')) :
    (c.proceed invoker stream goOn).run j = (([], .ok .finished), j') := by
  unfold proceed
  rw [run_outcome_bind, h]
  rfl

theorem run_proceed_of_fragment {t : String} {rest : Stream}
    (h : (c.next invoker stream).run j = (.ok (some (t, rest)), j')) :
    (c.proceed invoker stream goOn).run j =
      ((t :: ((goOn rest).run j').1.1, ((goOn rest).run j').1.2), ((goOn rest).run j').2) := by
  unfold proceed
  rw [run_outcome_bind, h]
  rfl

/-- Only the next item decides how a pull goes on. -/
theorem run_proceed_congr {stream' : Stream}
    (h : (c.next invoker stream).run j = (c.next invoker stream').run j') :
    (c.proceed invoker stream goOn).run j = (c.proceed invoker stream' goOn).run j' := by
  unfold proceed
  rw [run_outcome_bind, run_outcome_bind, h]

end Proceed

/-- A stream that has been called for, read item by item in one way. -/
structure Continues (operation : String) (decode : α → Except Fault (Option String))
    (wrap : Delivery α → Stream) : Prop where
  next_eq : ∀ d, c.next invoker (wrap d) = c.nextItem operation decode wrap d
  pending_eq : ∀ d, (wrap d).pending = d.items.length

theorem continues_chunks : c.Continues invoker "invoke_model_stream" c.textFragment .chunks :=
  ⟨fun _ => rfl, fun _ => rfl⟩

theorem continues_events : c.Continues invoker "converse_stream" chatFragment .events :=
  ⟨fun _ => rfl, fun _ => rfl⟩

/-- The first pull from an opened stream makes a call and goes on with what it delivers. -/
def Answered (stream : OpenStream) (call : Call) (s : Stream) (j : Journal) : Prop :=
  (c.next invoker (.opened stream)).run j =
    (c.next invoker s).run { j with calls := j.calls ++ [call] }

theorem answered_text {payload : Object} (h : Object.canWrite payload = true) (j : Journal) :
    c.Answered invoker (.text payload) (.invokeStream (c.modelRequest payload))
      (.chunks (invoker.invokeStream j.calls (c.modelRequest payload))) j := by
  unfold Answered
  simp only [next, h, if_true]
  rw [run_bind, Session.run_record]

theorem answered_chat (request : Object) (j : Journal) :
    c.Answered invoker (.chat request) (.converseStream request)
      (.events (invoker.converseStream j.calls request)) j := by
  unfold Answered
  simp only [next]
  rw [run_bind, Session.run_record]

theorem run_next_of_not_writable {payload : Object} (h : Object.canWrite payload = false)
    (j : Journal) : (c.next invoker (.opened (.text payload))).run j =
      (.error (c.surfaced .notWritable), c.noted "invoke_model_stream" j .notWritable) := by
  simp only [next, h, Bool.false_eq_true, if_false]
  exact c.run_fail _ _ j

/-- A pull that finds a fragment logs nothing. -/
theorem events_of_next {stream : Stream} {found : String × Stream} {j j' : Journal}
    (h : (c.next invoker stream).run j = (.ok (some found), j')) : j'.events = j.events := by
  cases stream with
  | chunks rest | events rest => rw [journal_of_nextItem c h]
  | opened stream =>
    cases stream with
    | chat request =>
      rw [answered_chat] at h
      rw [journal_of_nextItem c h]
    | text payload =>
      cases hwrite : Object.canWrite payload with
      | true =>
        rw [answered_text c invoker hwrite] at h
        rw [journal_of_nextItem c h]
      | false =>
        rw [run_next_of_not_writable c invoker hwrite] at h
        cases h

variable {c invoker}

theorem run_proceed_of_answered {stream : OpenStream} {call : Call} {s : Stream} {j : Journal}
    (ha : c.Answered invoker stream call s j)
    (goOn : Stream → StateM Journal (List String × Except Fault StreamEnd)) :
    (c.proceed invoker (.opened stream) goOn).run j =
      (c.proceed invoker s goOn).run { j with calls := j.calls ++ [call] } := by
  exact run_proceed_congr c invoker ha

/-- A pull that finds no fragment runs into the end of the delivery. -/
theorem run_proceed_of_nil (hw : c.Continues invoker operation decode wrap) {d : Delivery α}
    (h : fragments decode d.items = [])
    (goOn : Stream → StateM Journal (List String × Except Fault StreamEnd)) (j : Journal) :
    (c.proceed invoker (wrap d) goOn).run j =
      (([], c.ending decode d), c.endJournal operation decode d j) := by
  have hnext : (c.nextItem operation decode wrap d).run j = _ := run_nextItem_of_nil c h j
  rw [← hw.next_eq] at hnext
  cases hend : c.ending decode d with
  | error f =>
    rw [hend] at hnext
    exact run_proceed_of_error c invoker hnext
  | ok last =>
    rw [hend] at hnext
    rw [run_proceed_of_finished c invoker hnext, c.eq_finished_of_ending hend]

/-- A pull that finds a fragment leaves a delivery with the other fragments and the same end. -/
theorem run_proceed_of_cons (hw : c.Continues invoker operation decode wrap) {d : Delivery α}
    {t : String} {ts : List String} (h : fragments decode d.items = t :: ts)
    (goOn : Stream → StateM Journal (List String × Except Fault StreamEnd)) (j : Journal) :
    ∃ rest : Delivery α, (c.proceed invoker (wrap d) goOn).run j =
        ((t :: ((goOn (wrap rest)).run j).1.1, ((goOn (wrap rest)).run j).1.2),
          ((goOn (wrap rest)).run j).2) ∧
      fragments decode rest.items = ts ∧ c.ending decode rest = c.ending decode d ∧
      c.endJournal operation decode rest j = c.endJournal operation decode d j := by
  obtain ⟨rest, hnext, hts, hrefusal, hfailure⟩ := run_nextItem_of_cons c h j
  refine ⟨rest, ?_, hts, ?_, ?_⟩
  · rw [← hw.next_eq] at hnext
    exact run_proceed_of_fragment c invoker hnext
  · unfold ending
    rw [hrefusal, hfailure]
  · unfold endJournal
    rw [hrefusal, hfailure]

/-- Pulling from a delivery gives its fragments in order and its end only after the last of them. -/
theorem run_pullUpTo (hw : c.Continues invoker operation decode wrap) (n : Nat) (d : Delivery α)
    (j : Journal) :
    (c.pullUpTo invoker n (wrap d)).run j =
      if n ≤ (fragments decode d.items).length then
        (((fragments decode d.items).take n, .ok .more), j)
      else ((fragments decode d.items, c.ending decode d), c.endJournal operation decode d j) := by
  induction n generalizing d with
  | zero => rfl
  | succ n ih =>
    rw [pullUpTo]
    cases hf : fragments decode d.items with
    | nil =>
      rw [run_proceed_of_nil hw hf]
      rfl
    | cons t ts =>
      obtain ⟨rest, hrun, rfl, hending, hjournal⟩ :=
        run_proceed_of_cons hw hf (c.pullUpTo invoker n) j
      rw [hrun, ih, hending, hjournal, List.length_cons]
      by_cases hn : n ≤ (fragments decode rest.items).length
      · rw [if_pos hn, if_pos (Nat.add_le_add_right hn 1)]
        rfl
      · rw [if_neg hn, if_neg (fun h => hn (Nat.le_of_add_le_add_right h))]

/-- Pulling one fragment more than there are items gets to the end of a delivery. -/
theorem run_pullUpTo_pending (hw : c.Continues invoker operation decode wrap) (d : Delivery α)
    (j : Journal) :
    (c.pullUpTo invoker ((wrap d).pending + 1) (wrap d)).run j =
      ((fragments decode d.items, c.ending decode d), c.endJournal operation decode d j) := by
  have hle := Delivery.fragments_length_le decode d.items
  rw [run_pullUpTo hw, hw.pending_eq, if_neg (Nat.not_le.mpr (Nat.lt_succ_of_le hle))]

/-- What an opened stream gives when its call is answered by a delivery. -/
structure Streams (c : Client capability) (invoker : Invoker) (stream : OpenStream) (call : Call)
    (decode : α → Except Fault (Option String)) (d : Delivery α) (j : Journal) : Prop where
  /-- A stream that is not pulled makes no call. -/
  unpulled : (c.pull invoker stream (some 0)).run j = (([], .ok .more), j)
  called_once : ∀ n, 0 < n → ((c.pull invoker stream (some n)).run j).2.calls = j.calls ++ [call]
  in_order : ∀ n, ((c.pull invoker stream (some n)).run j).1.1 = (fragments decode d.items).take n
  /-- No failure shows while there are fragments in front of it. -/
  not_ended : ∀ n, n ≤ (fragments decode d.items).length →
    ((c.pull invoker stream (some n)).run j).1.2 = .ok .more
  ended : ∀ n, (fragments decode d.items).length < n →
    ((c.pull invoker stream (some n)).run j).1.2 = c.ending decode d
  /-- Pulling without a limit is pulling once more than there are fragments. -/
  unlimited : (c.pull invoker stream none).run j =
    (c.pull invoker stream (some ((fragments decode d.items).length + 1))).run j

theorem run_pull_of_answered {stream : OpenStream} {call : Call} {d : Delivery α} {j : Journal}
    (hw : c.Continues invoker operation decode wrap)
    (ha : c.Answered invoker stream call (wrap d) j) (n : Nat) :
    (c.pull invoker stream (some (n + 1))).run j =
      if n + 1 ≤ (fragments decode d.items).length then
        (((fragments decode d.items).take (n + 1), .ok .more),
          { j with calls := j.calls ++ [call] })
      else
        ((fragments decode d.items, c.ending decode d),
          c.endJournal operation decode d { j with calls := j.calls ++ [call] }) := by
  rw [← run_pullUpTo hw, pull, pullUpTo, pullUpTo, run_proceed_of_answered ha]

theorem run_pull_all {stream : OpenStream} {call : Call} {d : Delivery α} {j : Journal}
    (hw : c.Continues invoker operation decode wrap)
    (ha : c.Answered invoker stream call (wrap d) j) :
    (c.pull invoker stream none).run j =
      ((fragments decode d.items, c.ending decode d),
        c.endJournal operation decode d { j with calls := j.calls ++ [call] }) := by
  rw [pull, pullAll, run_proceed_of_answered ha]
  cases hf : fragments decode d.items with
  | nil => exact run_proceed_of_nil hw hf _ _
  | cons t ts =>
    obtain ⟨rest, hrun, rfl, hending, hjournal⟩ := run_proceed_of_cons hw hf
      (fun rest => c.pullUpTo invoker (rest.pending + 1) rest)
      { j with calls := j.calls ++ [call] }
    rw [hrun, run_pullUpTo_pending hw, hending, hjournal]

theorem streams_of_answered {stream : OpenStream} {call : Call} {d : Delivery α} {j : Journal}
    (hw : c.Continues invoker operation decode wrap)
    (ha : c.Answered invoker stream call (wrap d) j) : c.Streams invoker stream call decode d j := by
  have hrun := run_pull_of_answered hw ha
  constructor
  · rfl
  · intro n hn
    obtain ⟨n, rfl⟩ := Nat.exists_eq_add_of_lt hn
    rw [Nat.zero_add, hrun]
    split
    · rfl
    · exact c.endJournal_calls operation decode d _
  · intro n
    cases n with
    | zero => rfl
    | succ n =>
      rw [hrun]
      split
      · rfl
      · rename_i hlt
        exact (List.take_of_length_le (Nat.le_of_not_le hlt)).symm
  · intro n hn
    cases n with
    | zero => rfl
    | succ n => rw [hrun, if_pos hn]
  · intro n hn
    cases n with
    | zero => exact absurd hn (Nat.not_lt_zero _)
    | succ n => rw [hrun, if_neg (Nat.not_le.mpr hn)]
  · rw [run_pull_all hw ha, hrun, if_neg (Nat.not_succ_le_self _)]

/-- What an opened stream gives when its call is refused before it is made. -/
structure Unsent (c : Client capability) (invoker : Invoker) (stream : OpenStream)
    (failure : Failure) (j : Journal) : Prop where
  unpulled : (c.pull invoker stream (some 0)).run j = (([], .ok .more), j)
  pulled : ∀ n, 0 < n → ((c.pull invoker stream (some n)).run j).1 =
    ([], .error (c.surfaced failure))
  unlimited : ((c.pull invoker stream none).run j).1 = ([], .error (c.surfaced failure))
  never_called : ∀ limit, ((c.pull invoker stream limit).run j).2.calls = j.calls

/-- The first pull shows that a payload cannot be written. -/
theorem run_proceed_of_not_writable {payload : Object} (h : Object.canWrite payload = false)
    (goOn : Stream → StateM Journal (List String × Except Fault StreamEnd)) (j : Journal) :
    (c.proceed invoker (.opened (.text payload)) goOn).run j =
      (([], .error (c.surfaced .notWritable)), c.noted "invoke_model_stream" j .notWritable) :=
  run_proceed_of_error c invoker (run_next_of_not_writable c invoker h j)

theorem unsent_of_not_writable {payload : Object} (h : Object.canWrite payload = false)
    (j : Journal) : c.Unsent invoker (.text payload) .notWritable j := by
  constructor
  · rfl
  · intro n hn
    obtain ⟨n, rfl⟩ := Nat.exists_eq_add_of_lt hn
    rw [pull, pullUpTo, run_proceed_of_not_writable h]
  · rw [pull, pullAll, run_proceed_of_not_writable h]
  · intro limit
    match limit with
    | none =>
      rw [pull, pullAll, run_proceed_of_not_writable h]
      exact c.noted_calls _ j _
    | some 0 => rfl
    | some (n + 1) =>
      rw [pull, pullUpTo, run_proceed_of_not_writable h]
      exact c.noted_calls _ j _

/-- Opening a stream of text checks the route and builds the payload. -/
theorem of_openText {c : Client .textGeneration} {prompt : Value} {settings : Settings}
    {stream : OpenStream} (h : c.openText prompt settings = .ok stream) :
    c.route.supports .textStreaming = true ∧ ∃ payload,
      c.route.adapter.textRequest c.modelId prompt settings = .ok payload ∧
        stream = .text payload := by
  obtain ⟨route, hroute, hrest⟩ := ok_of_bind_eq_ok h
  obtain ⟨hsupports, rfl⟩ := of_require_ok hroute
  obtain ⟨payload, hpayload, hstream⟩ := ok_of_bind_eq_ok hrest
  exact ⟨hsupports, payload, hpayload, (Except.ok.inj hstream).symm⟩

/-- Opening a stream of replies checks the route and builds the request. -/
theorem of_openChat {c : Client .chat} {turns : List Turn} {settings : Settings}
    {stream : OpenStream} (h : c.openChat turns settings = .ok stream) :
    c.route.supports .chatStreaming = true ∧ ∃ request,
      c.route.adapter.converseRequest c.modelId turns settings = .ok request ∧
        stream = .chat request := by
  obtain ⟨route, hroute, hrest⟩ := ok_of_bind_eq_ok h
  obtain ⟨hsupports, rfl⟩ := of_require_ok hroute
  obtain ⟨request, hrequest, hstream⟩ := ok_of_bind_eq_ok hrest
  exact ⟨hsupports, request, hrequest, (Except.ok.inj hstream).symm⟩

/-- A route without an unbacked capability has an adapter for what it declares. -/
theorem implements_of_supports {r : Route} {cap : Capability} (h : r.unbacked = [])
    (hs : r.supports cap = true) : r.adapter.implements cap = true := by
  have hmem : cap ∈ r.capabilities := List.contains_iff_mem.mp hs
  have hall := List.filter_eq_nil_iff.mp h cap hmem
  simpa using hall

/-- Streams make no call before the first pull and one call from then on; they give the fragments
of the delivery in order, and its end after the last of them. A payload that cannot be written
makes no call at all: the first pull shows the failure. With the standard adapters no fragment is
empty, and tolerant clients decode every chunk. -/
theorem streams_lazy_in_order (invoker : Invoker) (j : Journal) :
    (∀ (c : Client .textGeneration) (prompt : Value) (settings : Settings) (stream : OpenStream),
      c.openText prompt settings = .ok stream → ∃ payload,
        c.route.adapter.textRequest c.modelId prompt settings = .ok payload ∧
        (Object.canWrite payload = true →
          c.Streams invoker stream (.invokeStream (c.modelRequest payload)) c.textFragment
            (invoker.invokeStream j.calls (c.modelRequest payload)) j) ∧
        (Object.canWrite payload = false → c.Unsent invoker stream .notWritable j) ∧
        (c.route.adapter ∈ standardRoutes.map Route.adapter → c.route.unbacked = [] →
          ∀ items, "" ∉ fragments c.textFragment items ∧
            (c.strict = false → refusal? c.textFragment items = none ∧
              fragments c.textFragment items =
                items.filterMap (Delivery.fragment? c.textFragment)))) ∧
    (∀ (c : Client .chat) (turns : List Turn) (settings : Settings) (stream : OpenStream),
      c.openChat turns settings = .ok stream → ∃ request,
        c.route.adapter.converseRequest c.modelId turns settings = .ok request ∧
        c.Streams invoker stream (.converseStream request) chatFragment
          (invoker.converseStream j.calls request) j ∧
        ∀ items, "" ∉ fragments chatFragment items ∧ refusal? chatFragment items = none ∧
          fragments chatFragment items = items.filterMap Reply.streamText) := by
  constructor
  · intro c prompt settings stream hopen
    obtain ⟨hsupports, payload, hpayload, rfl⟩ := of_openText hopen
    refine ⟨payload, hpayload, ?_, ?_, ?_⟩
    · intro hw
      exact streams_of_answered (c.continues_chunks invoker) (c.answered_text invoker hw j)
    · intro hw
      exact unsent_of_not_writable hw j
    · intro hstandard hbacked items
      have hfluent := fluent_of_standard hstandard (implements_of_supports hbacked hsupports)
      refine ⟨fragments_ne_empty hfluent items, ?_⟩
      intro hs
      obtain ⟨hall, hnone⟩ :=
        Delivery.fragments_of_readable items (textFragment_readable hfluent hs)
      exact ⟨hnone, hall⟩
  · intro c turns settings stream hopen
    obtain ⟨_, request, hrequest, rfl⟩ := of_openChat hopen
    refine ⟨request, hrequest, ?_, ?_⟩
    · exact streams_of_answered (c.continues_events invoker) (c.answered_chat invoker request j)
    · intro items
      have hreadable : ∀ event, Delivery.readable chatFragment event = true := fun _ => rfl
      obtain ⟨hall, hnone⟩ := Delivery.fragments_of_readable items hreadable
      exact ⟨chatFragments_ne_empty items, hnone, hall⟩

def commandR : Client .textGeneration :=
  ⟨"cohere.command-r-v1:0", .make "cohere" "command-r" CommandR.adapter textAndChat, false, false⟩

/-- A client whose adapter gives an empty fragment for every chunk. -/
def blank : Client .textGeneration where
  modelId := "blank.model"
  route := .make "blank" "model"
    { Adapter.bare "BlankIO" "blank" with
      textRequest? := some fun _ _ _ => .ok []
      completions? := some fun _ _ _ => .ok []
      fragment? := some fun _ => .ok (some "") } [.textGeneration, .textStreaming]
  strict := false
  logEvents := false

def oneChunk : Invoker where
  invoke _ _ := .ok (.value .null)
  invokeStream _ _ := ⟨[.value (.object [("text", .text "a")])], none⟩
  converse _ _ := .ok .null
  converseStream _ _ := ⟨[], none⟩

/-- A document that is a chat message builds a request that cannot be written, so its first pull
makes no call; and only the adapter keeps fragments from being empty. -/
theorem not_every_pull_calls_or_speaks :
    (∃ stream, commandR.openText (.text "hi")
        (some [("documents", .list [.message "user" (.text "note")])]) = .ok stream ∧
      ((commandR.pull oneChunk stream (some 1)).run .empty).2.calls = []) ∧
    (∃ stream, blank.openText (.text "hi") none = .ok stream ∧
      ((blank.pull oneChunk stream (some 1)).run .empty).1.1 = [""]) :=
  ⟨⟨_, rfl, by decide⟩, ⟨_, rfl, by decide⟩⟩

end Client
end ModelGateway
