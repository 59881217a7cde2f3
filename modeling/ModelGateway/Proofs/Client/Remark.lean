import ModelGateway.Proofs.Client.LogSwitch
import ModelGateway.Proofs.Decoding.Discarded

/-!
# What there is to remark on an operation

A client remarks on three things: a failure that callers see wrapped, candidates that are left out of
a completion, and an image that was not made. What there is to remark on can be told from outside: by
the calls that an operation made, what the invoker did with them, and how the operation ended. Each
operation adds just its calls and this remark to the journal.
-/
namespace ModelGateway

/-! ## Remarks -/

inductive Remark where
  /-- An operation failed, with an error that is not the gateway's own. -/
  | failed (operation : String) (f : Foreign)
  /-- So many candidates were left out. -/
  | discarded (count : Nat)
  | imageFailed (status : ImageStatus) (finishReason : Value)

namespace Remark

def name : Remark → String
  | failed .. => "bedrock_invoke_error"
  | discarded _ => "bedrock_candidates_discarded"
  | imageFailed .. => "bedrock_image_failed"

def fields : Remark → Object
  | failed operation f =>
    [("operation", .text operation), ("error", .text f.text), ("error_type", .text f.kind)]
  | discarded count => [("discarded", .int count)]
  | imageFailed status reason => [("status", .text status.name), ("finish_reason", reason)]

/-- The event of a remark, with the model and the provider in front. -/
def event {capability : Capability} (c : Client capability) (r : Remark) : Event :=
  ⟨r.name, [("model_id", .text c.modelId), ("provider", .text c.route.provider)] ++ r.fields⟩

end Remark

/-- Only a failure that is not the gateway's own is remarked on. -/
def Failure.remark? (operation : String) : Failure → Option Remark
  | gateway _ => none
  | foreign f => some (.failed operation f)

namespace Invoker

/-- The failure that a call ends in; for a stream, the one after its items. -/
def failure? (invoker : Invoker) (before : List Call) : Call → Option Failure
  | .invoke r =>
    match invoker.invoke before r with
    | .ok _ => none
    | .error failure => some failure
  | .invokeStream r => (invoker.invokeStream before r).failure
  | .converse request =>
    match invoker.converse before request with
    | .ok _ => none
    | .error failure => some failure
  | .converseStream request => (invoker.converseStream before request).failure

/-- The failures that calls end in, made one after another. -/
def failures (invoker : Invoker) (before : List Call) : List Call → List Failure
  | [] => []
  | call :: rest => (invoker.failure? before call).toList ++ invoker.failures (before ++ [call]) rest

theorem failures_singleton (invoker : Invoker) (before : List Call) (call : Call) :
    invoker.failures before [call] = (invoker.failure? before call).toList := List.append_nil _

/-- The body that answers a single call for one. -/
def answer? (invoker : Invoker) (before : List Call) : List Call → Option Body
  | [.invoke r] => (invoker.invoke before r).toOption
  | _ => none

end Invoker

namespace Client

variable {capability : Capability} (c : Client capability) (invoker : Invoker)

/-- The events of remarks, if the client logs. -/
def entries (remarks : List Remark) : List Event :=
  if c.logEvents then remarks.map (Remark.event c) else []

/-- The failure behind an error: of those given or, failing these, of a body that cannot be written,
the first that callers see as this error. -/
def shown? (failures : List Failure) (f : Fault) : Option Failure :=
  (failures ++ [Failure.notWritable]).find? fun failure => c.surfaced failure = f

/-- How many candidates the client leaves out of a body that it decodes. -/
def discarded? (body : Body) : Option Remark :=
  let candidates := if c.route.adapter.name = Titan.adapter.name then Titan.candidates body c.strict
    else 0
  if 1 < candidates then some (.discarded (candidates - 1)) else none

/-- What there is to remark on what a use gave. -/
def notice? (before made : List Call) : Gain → Option Remark
  | .completions _ => (invoker.answer? before made).bind c.discarded?
  | .image result =>
    if result.ok then none else some (.imageFailed result.status result.finishReason)
  | _ => none

/-- What there is to remark on how an operation ended, by the calls before it, those it made, and the
failure that was still to come in a stream. -/
def remark? (operation : String) (rest : Option Failure) (before made : List Call) :
    Except Fault Gain → Option Remark
  | .error f =>
    (c.shown? (invoker.failures before made ++ rest.toList) f).bind (Failure.remark? operation)
  | .ok gain => c.notice? invoker before made gain

end Client

/-! ## Journals -/

namespace Client

variable {capability : Capability} (c : Client capability)

/-- A journal with calls and what there is to remark on them at its end. -/
def extend (j : Journal) (calls : List Call) (remark : Option Remark) : Journal :=
  ⟨j.calls ++ calls, j.events ++ c.entries remark.toList⟩

theorem entries_nil : c.entries [] = [] := by
  unfold entries
  split <;> rfl

theorem entries_append (remarks more : List Remark) :
    c.entries (remarks ++ more) = c.entries remarks ++ c.entries more := by
  unfold entries
  split
  · exact List.map_append
  · rfl

theorem extend_nil (j : Journal) : c.extend j [] none = j := by
  rw [extend, Option.toList_none, entries_nil, List.append_nil, List.append_nil]

theorem extend_calls (j : Journal) (calls : List Call) :
    c.extend j calls none = { j with calls := j.calls ++ calls } := by
  rw [extend, Option.toList_none, entries_nil, List.append_nil]

theorem extend_extend (j : Journal) (calls more : List Call) (remark : Option Remark) :
    c.extend (c.extend j calls none) more remark = c.extend j (calls ++ more) remark := by
  rw [extend_calls, extend, extend, List.append_assoc]

theorem run_log (r : Remark) (j : Journal) :
    (c.log r.name r.fields).run j = (.ok (), c.extend j [] (some r)) := by
  -- No field has the key of the model or of the provider, so none of the two is put over.
  have hfields : Object.putAll [("model_id", .text c.modelId), ("provider", .text c.route.provider)]
      r.fields = [("model_id", .text c.modelId), ("provider", .text c.route.provider)] ++ r.fields := by
    cases r <;> rfl
  unfold log extend entries
  rw [hfields, List.append_nil]
  cases c.logEvents with
  | true => rfl
  | false =>
    rw [if_neg Bool.false_ne_true, List.append_nil]
    rfl

/-- What the journal is after a failure is told by the remark on it. -/
theorem noted_eq (operation : String) (j : Journal) (failure : Failure) :
    c.noted operation j failure = c.extend j [] (failure.remark? operation) := by
  cases failure with
  | gateway e => exact (c.extend_nil j).symm
  | foreign f => exact congrArg Prod.snd (c.run_log (.failed operation f) j)

/-! ## Which failure an error shows -/

theorem shown?_cons (failure : Failure) (rest : List Failure) :
    c.shown? (failure :: rest) (c.surfaced failure) = some failure := by
  rw [shown?, List.cons_append, List.find?_cons_of_pos]
  exact decide_eq_true rfl

theorem shown?_notWritable : c.shown? [] (c.surfaced .notWritable) = some .notWritable :=
  List.find?_cons_of_pos (decide_eq_true rfl)

/-- An error that no call failed with is not remarked on. -/
theorem remark?_of_own {f : Fault} (h : f.IsOwn) (failures : List Failure) (operation : String) :
    (c.shown? failures f).bind (Failure.remark? operation) = none := by
  cases hshown : c.shown? failures f with
  | none => rfl
  | some failure =>
    cases failure with
    | gateway e => rfl
    | foreign g =>
      have hsurfaced : c.surfaced (.foreign g) = f := by simpa using List.find?_some hshown
      rw [← hsurfaced] at h
      exact absurd rfl h

/-! ## How an action is told -/

/-- That a journal is the one before with the calls that were made and what there is to remark on how
they ended. -/
def Told {α : Type} (invoker : Invoker) (operation : String) (rest : Option Failure)
    (gain : α → Gain) (j : Journal) (made : List Call) (ended : Except Fault α × Journal) : Prop :=
  ended.2 = c.extend j made (c.remark? invoker operation rest j.calls made (ended.1.map gain))

/-- That an action is told, whatever was called before it. -/
def Tells {α : Type} (invoker : Invoker) (operation : String) (rest : Option Failure)
    (gain : α → Gain) (action : Session α) : Prop :=
  ∀ j, ∃ made, c.Told invoker operation rest gain j made (action.run j)

section
variable {α β : Type} {c} {invoker : Invoker} {operation : String} {rest : Option Failure}
  {gain : α → Gain} {j : Journal} {made : List Call}

theorem Told.own {f : Fault} (h : f.IsOwn) :
    c.Told invoker operation rest gain j made (.error f, c.extend j made none) :=
  congrArg (c.extend j made) (c.remark?_of_own h _ operation).symm

theorem Told.gained {a : α} {remark : Option Remark}
    (h : c.notice? invoker j.calls made (gain a) = remark) :
    c.Told invoker operation rest gain j made (.ok a, c.extend j made remark) :=
  congrArg (c.extend j made) h.symm

/-- What a failure of the invoker leaves, when no other came before it. -/
theorem Told.failed {failure : Failure}
    (h : invoker.failures j.calls made ++ rest.toList = [failure]) :
    c.Told invoker operation rest gain j made
      (.error (c.surfaced failure), c.noted operation (c.extend j made none) failure) := by
  have hremark : c.remark? invoker operation rest j.calls made (.error (c.surfaced failure)) =
      failure.remark? operation := by
    rw [remark?, h, shown?_cons]
    rfl
  rw [noted_eq, extend_extend, List.append_nil, ← hremark]
  rfl

theorem Told.failed_call {call : Call} {failure : Failure}
    (h : invoker.failure? j.calls call = some failure) :
    c.Told invoker operation none gain j [call]
      (.error (c.surfaced failure), c.noted operation (c.extend j [call] none) failure) := by
  refine .failed ?_
  rw [Invoker.failures_singleton, h]
  rfl

/-- What is left when nothing is called because the body cannot be written. -/
theorem Told.unwritten :
    c.Told invoker operation none gain j []
      (.error (c.surfaced .notWritable), c.noted operation j .notWritable) := by
  have hremark : c.remark? invoker operation none j.calls [] (.error (c.surfaced .notWritable)) =
      Failure.notWritable.remark? operation := by
    change (c.shown? [] _).bind _ = _
    rw [shown?_notWritable]
    rfl
  rw [noted_eq, ← hremark]
  rfl

/-- What comes before a call is not remarked on. -/
theorem Tells.ofOutcome_bind {outcome : Except Fault β} {next : β → Session α}
    (h : FailsOnly Fault.IsOwn outcome)
    (hnext : ∀ b, outcome = .ok b → c.Tells invoker operation rest gain (next b)) :
    c.Tells invoker operation rest gain (Session.ofOutcome outcome >>= next) := by
  cases outcome with
  | error f =>
    intro j
    refine ⟨[], ?_⟩
    rw [run_bind_of_error (Session.run_ofOutcome _ j)]
    have htold : c.Told invoker operation rest gain j [] (.error f, c.extend j [] none) :=
      .own (h f rfl)
    rwa [extend_nil] at htold
  | ok b => exact hnext b rfl

variable (c) in
theorem run_invoke_unwritten {payload : Object} (h : Object.canWrite payload = false) :
    (c.invoke invoker payload).run j =
      (.error (c.surfaced .notWritable), c.noted "invoke_model" j .notWritable) := by
  unfold Client.invoke
  rw [h, if_neg Bool.false_ne_true]
  exact c.run_fail _ _ j

variable (c) in
/-- A body is given by one call that did not fail. -/
theorem run_invoke_ok {payload : Object} {j j' : Journal} {body : Body}
    (h : (c.invoke invoker payload).run j = (.ok body, j')) :
    ∃ r, invoker.invoke j.calls r = .ok body ∧ j' = c.extend j [.invoke r] none := by
  cases hwrite : Object.canWrite payload with
  | false =>
    rw [c.run_invoke_unwritten hwrite] at h
    cases (Prod.mk.inj h).1
  | true =>
    rw [c.run_invoke invoker hwrite j] at h
    refine ⟨c.modelRequest payload, ?_⟩
    cases hanswer : invoker.invoke j.calls (c.modelRequest payload) with
    | error failure =>
      rw [hanswer] at h
      cases (Prod.mk.inj h).1
    | ok answer =>
      rw [hanswer] at h
      obtain ⟨hbody, rfl⟩ := Prod.mk.inj h
      rw [extend_calls]
      exact ⟨congrArg _ (Except.ok.inj hbody), rfl⟩

/-- A call that is answered is told by what is made of the answer. -/
theorem Tells.invoke {payload : Object} {next : Body → Session α}
    (hnext : ∀ (j : Journal) (r : ModelRequest) (body : Body),
      invoker.invoke j.calls r = .ok body → c.Told invoker "invoke_model" none gain j [.invoke r]
        ((next body).run (c.extend j [.invoke r] none))) :
    c.Tells invoker "invoke_model" none gain (c.invoke invoker payload >>= next) := by
  intro j
  cases hwrite : Object.canWrite payload with
  | false =>
    refine ⟨[], ?_⟩
    rw [run_bind_of_error (c.run_invoke_unwritten hwrite)]
    exact .unwritten
  | true =>
    have hrun := c.run_invoke invoker hwrite j
    rw [← extend_calls] at hrun
    refine ⟨[.invoke (c.modelRequest payload)], ?_⟩
    cases hanswer : invoker.invoke j.calls (c.modelRequest payload) with
    | error failure =>
      rw [hanswer] at hrun
      rw [run_bind_of_error hrun]
      refine .failed_call ?_
      rw [Invoker.failure?, hanswer]
    | ok body =>
      rw [hanswer] at hrun
      rw [run_bind_of_ok hrun]
      exact hnext j _ body hanswer

end

end Client

/-! ## Operations -/

namespace Client

variable {c : Client .textGeneration} {invoker : Invoker}

theorem logDiscarded_of_null {completion : Completion}
    (h : Object.value completion.metadata "discarded_candidates" = .null) :
    c.logDiscarded completion = pure () := by
  unfold logDiscarded
  rw [h]
  rfl

theorem logDiscarded_of_pos {completion : Completion} {count : Nat} (hcount : 0 < count)
    (h : Object.value completion.metadata "discarded_candidates" = .int count) :
    c.logDiscarded completion = c.log (Remark.discarded count).name (Remark.discarded count).fields := by
  have htruthy : (Value.int count).isTruthy = true := by
    simp only [Value.isTruthy, bne_iff_ne]
    omega
  unfold logDiscarded
  rw [h]
  exact if_pos htruthy

theorem forM_logDiscarded_of_null {given : List Completion}
    (h : ∀ completion ∈ given, Object.value completion.metadata "discarded_candidates" = .null) :
    given.forM c.logDiscarded = pure () := by
  induction given with
  | nil => rfl
  | cons completion rest ih =>
    obtain ⟨hcompletion, hrest⟩ := List.forall_mem_cons.mp h
    rw [List.forM_eq_forM, List.forM_cons, logDiscarded_of_null hcompletion]
    exact ih hrest

/-- What is left out of a completion is logged, whatever else there is in its metadata. -/
theorem run_logDiscarded (hstandard : c.route.adapter ∈ standardRoutes.map Route.adapter)
    {body : Body} {given : List Completion}
    (h : c.route.adapter.completions c.modelId body c.strict = .ok given) (j : Journal) :
    (given.forM c.logDiscarded).run j = (.ok (), c.extend j [] (c.discarded? body)) := by
  by_cases hname : c.route.adapter.name = Titan.adapter.name
  · rw [Adapter.eq_titan_of_name hstandard hname] at h
    unfold discarded?
    rw [if_pos hname]
    rcases Titan.discarded_of_completions h with ⟨hzero, rfl⟩ | ⟨completion, rfl, hvalue⟩
    · rw [hzero]
      exact congrArg _ (c.extend_nil j).symm
    · by_cases hmany : 1 < Titan.candidates body c.strict
      · rw [if_pos hmany] at hvalue ⊢
        have hrun : (c.logDiscarded completion).run j =
            (.ok (), c.extend j [] (some (.discarded (Titan.candidates body c.strict - 1)))) := by
          rw [logDiscarded_of_pos (Nat.sub_pos_of_lt hmany) hvalue]
          exact c.run_log _ j
        exact run_bind_of_ok hrun
      · rw [if_neg hmany] at hvalue ⊢
        rw [forM_logDiscarded_of_null (List.forall_mem_singleton.mpr hvalue), extend_nil]
        rfl
  · have hplain := Adapter.plain_of_standard hstandard hname _ _ _ _ h
    have hnone : c.discarded? body = none := by
      unfold discarded?
      rw [if_neg hname]
      rfl
    have hnull : ∀ completion ∈ given,
        Object.value completion.metadata "discarded_candidates" = .null := by
      intro completion hmem
      rw [hplain completion hmem]
      rfl
    rw [hnone, extend_nil, forM_logDiscarded_of_null hnull]
    rfl

end Client

namespace Client

variable {capability : Capability} {invoker : Invoker}

theorem generate_told {c : Client .textGeneration}
    (hstandard : c.route.adapter ∈ standardRoutes.map Route.adapter) (prompt : Value)
    (settings : Settings) :
    c.Tells invoker "invoke_model" none .completions (c.generate invoker prompt settings) := by
  have hcandid := Adapter.candid_of_standard hstandard
  refine .ofOutcome_bind (hcandid.text _ _ _) fun payload _ => .invoke ?_
  intro j r body hanswer
  have hcompletions := hcandid.completions c.modelId body c.strict
  cases hgiven : c.route.adapter.completions c.modelId body c.strict with
  | error f =>
    rw [run_bind_of_error (Session.run_ofOutcome _ _)]
    exact .own (hcompletions f hgiven)
  | ok given =>
    rw [run_bind_of_ok (Session.run_ofOutcome _ _),
      run_bind_of_ok (run_logDiscarded hstandard hgiven _), extend_extend]
    have hbody : invoker.answer? j.calls [.invoke r] = some body := by
      rw [Invoker.answer?, hanswer]
      rfl
    refine .gained ?_
    rw [notice?, hbody]
    rfl

theorem generateImage_told {c : Client .textToImage}
    (hstandard : c.route.adapter ∈ standardRoutes.map Route.adapter)
    (description width height : Value) (settings : Settings) :
    c.Tells invoker "invoke_model" none .image
      (c.generateImage invoker description width height settings) := by
  have hcandid := Adapter.candid_of_standard hstandard
  have hside : ∀ side v, FailsOnly Fault.IsOwn (checkSide side v) := fun side v =>
    (checkSide_local side v).mono fun _ => Fault.IsLocal.own
  refine .ofOutcome_bind (hside _ _) fun _ _ => .ofOutcome_bind (hside _ _) fun _ _ =>
    .ofOutcome_bind (hcandid.imageRequest _ _ _ _ _) fun payload _ => .invoke ?_
  intro j r body hanswer
  cases hresult : c.route.adapter.image body c.strict with
  | error f =>
    rw [run_bind_of_error (Session.run_ofOutcome _ _)]
    exact .own (hcandid.image body c.strict f hresult)
  | ok result =>
    rw [run_bind_of_ok (Session.run_ofOutcome _ _)]
    cases hok : result.ok with
    | true =>
      refine .gained ?_
      rw [notice?, if_pos hok]
    | false =>
      have hlog : (c.log "bedrock_image_failed" [("status", .text result.status.name),
          ("finish_reason", result.finishReason)]).run (c.extend j [.invoke r] none) =
          (.ok (), c.extend (c.extend j [.invoke r] none) []
            (some (.imageFailed result.status result.finishReason))) :=
        c.run_log (.imageFailed result.status result.finishReason) _
      rw [extend_extend] at hlog
      change c.Told invoker "invoke_model" none .image j [.invoke r]
        ((c.log _ _ >>= fun _ => pure result).run _)
      rw [run_bind_of_ok hlog]
      refine .gained ?_
      rw [notice?, hok]
      rfl

theorem complete_told {c : Client .chat}
    (hstandard : c.route.adapter ∈ standardRoutes.map Route.adapter) (turns : List Turn)
    (settings : Settings) :
    c.Tells invoker "converse" none .replies (c.complete invoker turns settings) := by
  have hcandid := Adapter.candid_of_standard hstandard
  refine .ofOutcome_bind (hcandid.converse _ _ _) fun request _ j => ⟨[.converse request], ?_⟩
  rw [run_bind_of_ok (Session.run_record _ j), ← extend_calls]
  cases hanswer : invoker.converse j.calls request with
  | ok response =>
    dsimp only
    rw [Session.run_ofOutcome]
    cases hreplies : Fault.ofConversion (Reply.ofResponse response c.modelId) with
    | error f => exact .own (Fault.ofConversion_own _ f hreplies)
    | ok replies => exact .gained rfl
  | error failure =>
    dsimp only
    rw [run_fail]
    refine .failed_call ?_
    rw [Invoker.failure?, hanswer]

/-! Embedding makes a call for each text, and none after the first that fails. -/

/-- A call that did not fail takes nothing away from what is told of the calls after it. -/
theorem Told.cons {c : Client capability} {α : Type} {operation : String} {gain : α → Gain}
    {j : Journal} {call : Call} {made : List Call} {ended : Except Fault α × Journal}
    (hcall : invoker.failure? j.calls call = none)
    (hgain : ∀ before made a, c.notice? invoker before made (gain a) = none)
    (h : c.Told invoker operation none gain (c.extend j [call] none) made ended) :
    c.Told invoker operation none gain j (call :: made) ended := by
  obtain ⟨outcome, j'⟩ := ended
  have hfailures : invoker.failures j.calls (call :: made) =
      invoker.failures (c.extend j [call] none).calls made := by
    rw [Invoker.failures, hcall]
    rfl
  refine Eq.trans h ?_
  rw [extend_extend]
  refine congrArg (c.extend j (call :: made)) ?_
  cases outcome with
  | error f =>
    change (c.shown? (_ ++ _) f).bind _ = (c.shown? (_ ++ _) f).bind _
    rw [hfailures]
  | ok a => exact (hgain _ _ a).trans (hgain _ _ a).symm

theorem embedOne_told {c : Client .embedding}
    (hstandard : c.route.adapter ∈ standardRoutes.map Route.adapter) (text : Value) :
    c.Tells invoker "invoke_model" none (fun v => .vectors [v]) (c.embedOne invoker text) := by
  refine .ofOutcome_bind (Adapter.embeddingRequest_own hstandard _ _) fun payload _ => .invoke ?_
  intro j r body hanswer
  rw [Session.run_ofOutcome]
  cases hvector : c.route.adapter.embedding body c.strict with
  | error f => exact .own (Adapter.embedding_own hstandard body c.strict f hvector)
  | ok v => exact .gained rfl

/-- A text is embedded by one call that did not fail. -/
theorem run_embedOne_ok {c : Client .embedding} {text : Value} {j j' : Journal} {v : List Binary64}
    (h : (c.embedOne invoker text).run j = (.ok v, j')) :
    ∃ r, invoker.failure? j.calls (.invoke r) = none ∧ j' = c.extend j [.invoke r] none := by
  obtain ⟨payload, j₁, hpayload, hrest⟩ := ok_of_run_bind h
  obtain ⟨body, j₂, hbody, hdecoded⟩ := ok_of_run_bind hrest
  obtain ⟨_, rfl⟩ := Prod.mk.inj hpayload
  obtain ⟨_, rfl⟩ := Prod.mk.inj hdecoded
  obtain ⟨r, hanswer, rfl⟩ := c.run_invoke_ok hbody
  refine ⟨r, ?_, rfl⟩
  rw [Invoker.failure?, hanswer]

theorem embedAll_told {c : Client .embedding}
    (hstandard : c.route.adapter ∈ standardRoutes.map Route.adapter) (texts : List Value) :
    c.Tells invoker "invoke_model" none .vectors (texts.mapM (c.embedOne invoker)) := by
  induction texts with
  | nil => exact fun j => ⟨[], (c.extend_nil j).symm⟩
  | cons text rest ih =>
    intro j
    rw [List.mapM_cons]
    rcases hrun : (c.embedOne invoker text).run j with ⟨f | v, j'⟩
    · obtain ⟨made, htold⟩ := embedOne_told hstandard text j
      rw [hrun] at htold
      rw [run_bind_of_error hrun]
      exact ⟨made, htold⟩
    · -- The other texts are told from the journal that this call leaves, and it did not fail.
      obtain ⟨r, hanswered, rfl⟩ := run_embedOne_ok hrun
      obtain ⟨made, htold⟩ := ih (c.extend j [.invoke r] none)
      refine ⟨.invoke r :: made, .cons hanswered (fun _ _ _ => rfl) ?_⟩
      rw [run_bind_of_ok hrun]
      rcases hrest : (rest.mapM (c.embedOne invoker)).run (c.extend j [.invoke r] none) with
        ⟨f | vectors, j'⟩
      · rw [hrest] at htold
        rw [run_bind_of_error hrest]
        exact htold
      · rw [hrest] at htold
        rw [run_bind_of_ok hrest]
        exact htold

theorem embed_told {c : Client .embedding}
    (hstandard : c.route.adapter ∈ standardRoutes.map Route.adapter) (texts : Value) :
    c.Tells invoker "invoke_model" none .vectors (c.embed invoker texts) :=
  .ofOutcome_bind ((embeddingTexts_local texts).mono fun _ => Fault.IsLocal.own)
    fun items _ => embedAll_told hstandard items

end Client

/-! ## Streams -/

namespace Stream

/-- The operation that a stream comes from. -/
def operation : Stream → String
  | opened (.text _) => "invoke_model_stream"
  | opened (.chat _) => "converse_stream"
  | chunks _ => "invoke_model_stream"
  | events _ => "converse_stream"

/-- The failure at the end of a stream that has been called for. -/
def failure? : Stream → Option Failure
  | opened _ => none
  | chunks rest => rest.failure
  | events rest => rest.failure

end Stream

namespace Client

variable {capability : Capability} {c : Client capability} {invoker : Invoker}

/-- What a pull gains, without the stream that it leaves. -/
def pulled (item : Option (String × Stream)) : Gain := .fragment (item.map Prod.fst)

/-- Reading on from a delivery is told by its failure, which is all that can be remarked on. -/
theorem nextItem_told {α : Type} {operation : String} {rest : Option Failure}
    {decode : α → Except Fault (Option String)} {wrap : Delivery α → Stream} {d : Delivery α}
    {j : Journal} {made : List Call} (hdecode : ∀ item, FailsOnly Fault.IsOwn (decode item))
    (h : invoker.failures j.calls made ++ rest.toList = d.failure.toList) :
    c.Told invoker operation rest pulled j made
      ((c.nextItem operation decode wrap d).run (c.extend j made none)) := by
  unfold nextItem
  cases hitem : Delivery.advance decode d.items with
  | error f =>
    rw [run_bind_of_error (Session.run_ofOutcome _ _)]
    exact .own (Delivery.advance_failsOnly hdecode d.items f hitem)
  | ok item =>
    rw [run_bind_of_ok (Session.run_ofOutcome _ _)]
    rcases item with _ | ⟨fragment, left⟩
    · -- The items are used up, so the delivery ends as its invoker lets it end.
      cases hfailure : d.failure with
      | none => exact .gained rfl
      | some failure =>
        rw [hfailure] at h
        dsimp only
        rw [run_fail]
        exact .failed h
    · exact .gained rfl

theorem textFragment_own (hstandard : c.route.adapter ∈ standardRoutes.map Route.adapter)
    (chunk : Body) : FailsOnly Fault.IsOwn (c.textFragment chunk) :=
  ((chunk.object_local c.strict).mono fun _ => Fault.IsLocal.own).bind fun o =>
    Adapter.fragment_own hstandard o

variable (invoker) in
theorem next_told (hstandard : c.route.adapter ∈ standardRoutes.map Route.adapter)
    (stream : Stream) :
    c.Tells invoker stream.operation stream.failure? pulled (c.next invoker stream) := by
  intro j
  cases stream with
  | opened stream =>
    cases stream with
    | text payload =>
      simp only [next]
      cases hwrite : Object.canWrite payload with
      | true =>
        refine ⟨[.invokeStream (c.modelRequest payload)], ?_⟩
        rw [if_pos rfl, run_bind_of_ok (Session.run_record _ j), ← extend_calls]
        refine nextItem_told (textFragment_own hstandard) ?_
        rw [Invoker.failures_singleton]
        exact List.append_nil _
      | false =>
        refine ⟨[], ?_⟩
        rw [if_neg Bool.false_ne_true, run_fail]
        exact .unwritten
    | chat request =>
      refine ⟨[.converseStream request], ?_⟩
      simp only [next]
      rw [run_bind_of_ok (Session.run_record _ j), ← extend_calls]
      refine nextItem_told (fun _ => .ok _) ?_
      rw [Invoker.failures_singleton]
      exact List.append_nil _
  | chunks rest =>
    refine ⟨[], ?_⟩
    have htold : c.Told invoker "invoke_model_stream" rest.failure pulled j []
        ((c.nextChunk rest).run (c.extend j [] none)) :=
      nextItem_told (textFragment_own hstandard) rfl
    rwa [extend_nil] at htold
  | events rest =>
    refine ⟨[], ?_⟩
    have htold : c.Told invoker "converse_stream" rest.failure pulled j []
        ((c.nextEvent rest).run (c.extend j [] none)) := nextItem_told (fun _ => .ok _) rfl
    rwa [extend_nil] at htold

end Client

end ModelGateway
