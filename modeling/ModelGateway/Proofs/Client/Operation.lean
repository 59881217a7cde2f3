import ModelGateway.Proofs.Client.Session
import ModelGateway.Proofs.Payload
import ModelGateway.Proofs.Refusal

/-!
# Each operation calls once, and only failed calls are wrapped

A step is one use of a client for text, chat or images. It makes one call if what it checks and
builds succeeds, and none otherwise. An error of the gateway that the call fails with passes
unchanged, any other failure is wrapped, and whatever is refused before the call or in its answer
surfaces as it is. A run of steps makes the calls of its steps in order.
-/
namespace ModelGateway

namespace Client

variable {capability : Capability}

/-- That an action succeeds and makes no call. -/
def Quiet (action : Session Unit) : Prop :=
  ∀ j, ∃ j', action.run j = (.ok (), j') ∧ j'.calls = j.calls

theorem quiet_log (c : Client capability) (name : String) (fields : Object) :
    Quiet (c.log name fields) := by
  intro j
  refine ⟨_, rfl, ?_⟩
  split <;> rfl

theorem quiet_pure : Quiet (pure ()) := fun j => ⟨j, rfl, rfl⟩

theorem Quiet.bind {first : Session Unit} {next : Unit → Session Unit} (h : Quiet first)
    (hnext : Quiet (next ())) : Quiet (first >>= next) := by
  intro j
  obtain ⟨j₁, hrun₁, hcalls₁⟩ := h j
  obtain ⟨j₂, hrun₂, hcalls₂⟩ := hnext j₁
  exact ⟨j₂, (run_bind_of_ok hrun₁).trans hrun₂, hcalls₂.trans hcalls₁⟩

theorem quiet_logDiscarded (c : Client capability) (completion : Completion) :
    Quiet (c.logDiscarded completion) := by
  unfold logDiscarded
  dsimp only
  split
  · exact c.quiet_log _ _
  · exact quiet_pure

theorem quiet_forM_logDiscarded (c : Client capability) (completions : List Completion) :
    Quiet (completions.forM c.logDiscarded) := by
  induction completions with
  | nil => exact quiet_pure
  | cons completion rest ih => exact (c.quiet_logDiscarded completion).bind ih

/-- Only positive integers pass for a side of an image. -/
theorem of_checkSide {side : String} {v : Value} (h : checkSide side v = .ok ()) :
    ∃ n : Int, 0 < n ∧ v = .int n := by
  cases v with
  | int n =>
    rw [checkSide] at h
    split at h
    · exact ⟨n, ‹_›, rfl⟩
    · cases h
  | _ => cases h

theorem checkSide_of_pos {n : Int} (h : 0 < n) (side : String) :
    checkSide side (.int n) = .ok () := if_pos h

theorem checkSide_local (side : String) (v : Value) :
    FailsOnly Fault.IsLocal (checkSide side v) := by
  have hrefuse : ∀ w, FailsOnly Fault.IsLocal (checkSide.refuse side w) :=
    fun w => .error (.inl rfl)
  unfold checkSide
  split
  · split
    · exact .ok _
    · exact hrefuse _
  · exact hrefuse _

/-- What a call comes to: what its answer is decoded to, or what callers see of its failure. -/
def settle {α : Type} (c : Client capability) (answer : Except Failure (Except Fault α)) :
    Except Fault α :=
  match answer with
  | .ok outcome => outcome
  | .error failure => .error (c.surfaced failure)

/-- A call and the decoding of its answer, when the payload can be written. -/
theorem run_invoke_bind {α : Type} (c : Client capability) (invoker : Invoker) {payload : Object}
    (h : Object.canWrite payload = true) (decode : Body → Except Fault α) (j : Journal) :
    ∃ j', (c.invoke invoker payload >>= fun body => Session.ofOutcome (decode body)).run j =
        (c.settle ((invoker.invoke j.calls (c.modelRequest payload)).map decode), j') ∧
      j'.calls = j.calls ++ [.invoke (c.modelRequest payload)] := by
  have hinvoke := c.run_invoke invoker h j
  cases hanswer : invoker.invoke j.calls (c.modelRequest payload) with
  | error failure =>
    rw [hanswer] at hinvoke
    rw [run_bind_of_error hinvoke]
    exact ⟨_, rfl, c.noted_calls _ _ _⟩
  | ok body =>
    rw [hanswer] at hinvoke
    rw [run_bind_of_ok hinvoke]
    exact ⟨_, rfl, rfl⟩

/-- That an action hands on a result and makes no call. -/
def HandsOn {α : Type} (action : Session α) (a : α) : Prop :=
  ∀ j, ∃ j', action.run j = (.ok a, j') ∧ j'.calls = j.calls

theorem Quiet.handsOn {α : Type} {remark : Session Unit} (h : Quiet remark) (a : α) :
    HandsOn (remark >>= fun _ => pure a) a := by
  intro j
  obtain ⟨j', hrun, hcalls⟩ := h j
  exact ⟨j', run_bind_of_ok hrun, hcalls⟩

/-- What is logged about a result changes neither the result nor the calls. -/
theorem run_bind_handsOn {α : Type} {action : Session α} {remark : α → Session α}
    (hremark : ∀ a, HandsOn (remark a) a) {j j' : Journal} {outcome : Except Fault α}
    (h : action.run j = (outcome, j')) :
    ∃ j'', (action >>= remark).run j = (outcome, j'') ∧ j''.calls = j'.calls := by
  cases outcome with
  | error f => exact ⟨j', run_bind_of_error h, rfl⟩
  | ok a =>
    obtain ⟨j'', hrun, hcalls⟩ := hremark a j'
    exact ⟨j'', (run_bind_of_ok h).trans hrun, hcalls⟩

section
variable (invoker : Invoker) {payload : Object} {settings : Settings}

theorem run_generate (c : Client .textGeneration) {prompt : Value}
    (h : c.route.adapter.textRequest c.modelId prompt settings = .ok payload)
    (hwrite : Object.canWrite payload = true) (j : Journal) :
    ∃ j', (c.generate invoker prompt settings).run j =
        (c.settle ((invoker.invoke j.calls (c.modelRequest payload)).map fun body =>
          c.route.adapter.completions c.modelId body c.strict), j') ∧
      j'.calls = j.calls ++ [.invoke (c.modelRequest payload)] := by
  obtain ⟨j', hrun, hcalls⟩ := c.run_invoke_bind invoker hwrite
    (fun body => c.route.adapter.completions c.modelId body c.strict) j
  obtain ⟨j'', hremarked, hcalls'⟩ := run_bind_handsOn
    (fun completions => (c.quiet_forM_logDiscarded completions).handsOn completions) hrun
  refine ⟨j'', ?_, hcalls'.trans hcalls⟩
  unfold generate
  rw [h, run_bind_of_ok (Session.run_ofOutcome _ j), ← hremarked, bind_assoc]

theorem run_complete (c : Client .chat) {turns : List Turn}
    (h : c.route.adapter.converseRequest c.modelId turns settings = .ok payload) (j : Journal) :
    ∃ j', (c.complete invoker turns settings).run j =
        (c.settle ((invoker.converse j.calls payload).map fun response =>
          Fault.ofConversion (Reply.ofResponse response c.modelId)), j') ∧
      j'.calls = j.calls ++ [.converse payload] := by
  unfold complete
  rw [h, run_bind_of_ok (Session.run_ofOutcome _ j), run_bind_of_ok (Session.run_record _ j)]
  cases invoker.converse j.calls payload with
  | ok response => exact ⟨_, rfl, rfl⟩
  | error failure => exact ⟨_, c.run_fail _ _ _, c.noted_calls _ _ _⟩

theorem run_generateImage (c : Client .textToImage) {description width height : Value}
    (hwidth : checkSide "width" width = .ok ()) (hheight : checkSide "height" height = .ok ())
    (h : c.route.adapter.imageRequest c.modelId description width height settings = .ok payload)
    (hwrite : Object.canWrite payload = true) (j : Journal) :
    ∃ j', (c.generateImage invoker description width height settings).run j =
        (c.settle ((invoker.invoke j.calls (c.modelRequest payload)).map fun body =>
          c.route.adapter.image body c.strict), j') ∧
      j'.calls = j.calls ++ [.invoke (c.modelRequest payload)] := by
  obtain ⟨j', hrun, hcalls⟩ := c.run_invoke_bind invoker hwrite
    (fun body => c.route.adapter.image body c.strict) j
  have hremark : ∀ result : ImageResult, HandsOn (if !result.ok then
        c.log "bedrock_image_failed" [("status", .text result.status.name),
          ("finish_reason", result.finishReason)] >>= fun _ => pure result
      else pure result) result := by
    intro result
    split
    · exact (c.quiet_log _ _).handsOn result
    · exact fun j => ⟨j, rfl, rfl⟩
  obtain ⟨j'', hremarked, hcalls'⟩ := run_bind_handsOn hremark hrun
  refine ⟨j'', ?_, hcalls'.trans hcalls⟩
  unfold generateImage
  rw [hwidth, hheight, h, run_bind_of_ok (Session.run_ofOutcome _ j),
    run_bind_of_ok (Session.run_ofOutcome _ j), run_bind_of_ok (Session.run_ofOutcome _ j),
    ← hremarked, bind_assoc]

/-! What is refused before the call leaves the journal as it was. -/

variable {f : Fault}

theorem run_generate_of_error (c : Client .textGeneration) {prompt : Value}
    (h : c.route.adapter.textRequest c.modelId prompt settings = .error f) (j : Journal) :
    (c.generate invoker prompt settings).run j = (.error f, j) := by
  unfold generate
  rw [h, run_bind_of_error (Session.run_ofOutcome _ j)]

theorem run_complete_of_error (c : Client .chat) {turns : List Turn}
    (h : c.route.adapter.converseRequest c.modelId turns settings = .error f) (j : Journal) :
    (c.complete invoker turns settings).run j = (.error f, j) := by
  unfold complete
  rw [h, run_bind_of_error (Session.run_ofOutcome _ j)]

theorem run_generateImage_of_error (c : Client .textToImage) {description width height : Value}
    (h : (do
      checkSide "width" width
      checkSide "height" height
      c.route.adapter.imageRequest c.modelId description width height settings) = .error f)
    (j : Journal) : (c.generateImage invoker description width height settings).run j =
      (.error f, j) := by
  unfold generateImage
  cases hwidth : checkSide "width" width with
  | error g =>
    rw [hwidth] at h
    obtain rfl := Except.error.inj h
    rfl
  | ok _ =>
    cases hheight : checkSide "height" height with
    | error g =>
      rw [hwidth, hheight] at h
      obtain rfl := Except.error.inj h
      rfl
    | ok _ =>
      rw [hwidth, hheight] at h
      rw [run_bind_of_ok (Session.run_ofOutcome _ j), run_bind_of_ok (Session.run_ofOutcome _ j),
        show c.route.adapter.imageRequest _ _ _ _ _ = _ from h,
        run_bind_of_error (Session.run_ofOutcome _ j)]

end

end Client

/-- One use of a client. -/
inductive Step where
  | generate (c : Client .textGeneration) (prompt : Value) (settings : Settings)
  | complete (c : Client .chat) (turns : List Turn) (settings : Settings)
  | generateImage (c : Client .textToImage) (description width height : Value) (settings : Settings)

inductive StepResult where
  | completions (completions : List Completion)
  | replies (replies : List Reply)
  | image (result : ImageResult)

namespace Step

def modelId : Step → String
  | generate c .. => c.modelId
  | complete c .. => c.modelId
  | generateImage c .. => c.modelId

def adapter : Step → Adapter
  | generate c .. => c.route.adapter
  | complete c .. => c.route.adapter
  | generateImage c .. => c.route.adapter

def perform (invoker : Invoker) : Step → Session StepResult
  | generate c prompt settings => .completions <$> c.generate invoker prompt settings
  | complete c turns settings => .replies <$> c.complete invoker turns settings
  | generateImage c description width height settings =>
    .image <$> c.generateImage invoker description width height settings

/-- Performs steps one after another, whatever becomes of each. -/
def performAll (invoker : Invoker) : List Step → StateM Journal (List (Except Fault StepResult))
  | [] => return []
  | s :: rest => do
    let outcome ← (s.perform invoker).run
    let outcomes ← performAll invoker rest
    return outcome :: outcomes

/-- What a step checks and builds before it calls. -/
def payload : Step → Except Fault Object
  | generate c prompt settings => c.route.adapter.textRequest c.modelId prompt settings
  | complete c turns settings => c.route.adapter.converseRequest c.modelId turns settings
  | generateImage c description width height settings => do
    Client.checkSide "width" width
    Client.checkSide "height" height
    c.route.adapter.imageRequest c.modelId description width height settings

def callWith (payload : Object) : Step → Call
  | generate c .. => .invoke (c.modelRequest payload)
  | complete .. => .converse payload
  | generateImage c .. => .invoke (c.modelRequest payload)

/-- The one call of a step, if what comes before it succeeds. -/
def call? (s : Step) : Option Call :=
  match s.payload with
  | .ok payload => some (s.callWith payload)
  | .error _ => none

/-- The invoker's answer to the call of a step, as it is decoded. -/
def answer (invoker : Invoker) (before : List Call) (payload : Object) :
    Step → Except Failure (Except Fault StepResult)
  | generate c .. => (invoker.invoke before (c.modelRequest payload)).map fun body =>
      (c.route.adapter.completions c.modelId body c.strict).map .completions
  | complete c .. => (invoker.converse before payload).map fun response =>
      (Fault.ofConversion (Reply.ofResponse response c.modelId)).map .replies
  | generateImage c .. => (invoker.invoke before (c.modelRequest payload)).map fun body =>
      (c.route.adapter.image body c.strict).map .image

/-- That JSON has a form for what a step writes into a body. A converse request is handed over as it
is. -/
def Writable : Step → Prop
  | generate _ prompt settings =>
    Json.canWrite prompt = true ∧ settings.All fun v => Json.canWrite v = true
  | complete .. => True
  | generateImage _ description _ _ settings =>
    Json.canWrite description = true ∧ settings.All fun v => Json.canWrite v = true

end Step

/-- That an error wraps the failure of a call to a model: it has the failure as its cause, and its
message ends in the failure's text, or in the failure's kind when that text is empty. -/
def GatewayError.Wraps (e : GatewayError) (modelId : String) (f : Foreign) : Prop :=
  (∃ text, e = .invocation modelId text (some f)) ∧
    (if f.text = "" then f.kind else f.text).toList <:+ e.message.toList

theorem GatewayError.wraps_invocation (modelId : String) (f : Foreign) :
    (invocation modelId f.summary (some f)).Wraps modelId f := by
  refine ⟨⟨_, rfl⟩, ?_⟩
  change f.summary.toList <:+ (_ ++ f.summary).toList
  rw [String.toList_append]
  exact List.suffix_append _ _

namespace Step

/-- How a step ends, given the calls before it. -/
inductive Ends (s : Step) (invoker : Invoker) (before : List Call) :
    Except Fault StepResult → Prop where
  /-- Nothing was called. -/
  | refused {f : Fault} (hpayload : s.payload = .error f) (hown : f.IsOwn) :
      Ends s invoker before (.error f)
  | passed {payload : Object} {e : GatewayError} (hpayload : s.payload = .ok payload)
      (hanswer : s.answer invoker before payload = .error (.gateway e)) :
      Ends s invoker before (.error (.gateway e))
  | wrapped {payload : Object} {f : Foreign} {e : GatewayError} (hpayload : s.payload = .ok payload)
      (hanswer : s.answer invoker before payload = .error (.foreign f))
      (hwraps : e.Wraps s.modelId f) : Ends s invoker before (.error (.gateway e))
  /-- The answer was decoded, or refused as it is. -/
  | answered {payload : Object} {outcome : Except Fault StepResult}
      (hpayload : s.payload = .ok payload)
      (hanswer : s.answer invoker before payload = .ok outcome)
      (hown : FailsOnly Fault.IsOwn outcome) : Ends s invoker before outcome

variable {s : Step} {invoker : Invoker} {before : List Call} {payload : Object}

theorem ends_of_settle {capability : Capability} {α β : Type} {c : Client capability}
    {answered : Except Failure β} {decode : β → Except Fault α} {wrap : α → StepResult}
    (hpayload : s.payload = .ok payload) (hmodel : c.modelId = s.modelId)
    (hanswer : s.answer invoker before payload = answered.map fun b => (decode b).map wrap)
    (hown : ∀ b, FailsOnly Fault.IsOwn (decode b)) :
    s.Ends invoker before ((c.settle (answered.map decode)).map wrap) := by
  cases answered with
  | ok b => exact .answered hpayload hanswer ((hown b).map wrap)
  | error failure =>
    cases failure with
    | gateway e => exact .passed hpayload hanswer
    | foreign f => exact .wrapped hpayload hanswer (hmodel ▸ GatewayError.wraps_invocation _ f)

theorem run_perform_of_error {f : Fault} (h : s.payload = .error f) (j : Journal) :
    (s.perform invoker).run j = (.error f, j) := by
  cases s with
  | generate c prompt settings =>
    rw [perform, run_map, c.run_generate_of_error invoker h]
    rfl
  | complete c turns settings =>
    rw [perform, run_map, c.run_complete_of_error invoker h]
    rfl
  | generateImage c description width height settings =>
    rw [perform, run_map, c.run_generateImage_of_error invoker h]
    rfl

theorem payload_own (hadapter : s.adapter.Candid) : FailsOnly Fault.IsOwn s.payload := by
  cases s with
  | generate c prompt settings => exact hadapter.text _ _ _
  | complete c turns settings => exact hadapter.converse _ _ _
  | generateImage c description width height settings =>
    have hside : ∀ side v, FailsOnly Fault.IsOwn (Client.checkSide side v) := fun side v =>
      (Client.checkSide_local side v).mono fun _ => Fault.IsLocal.own
    exact (hside _ _).bind fun _ => (hside _ _).bind fun _ => hadapter.imageRequest _ _ _ _ _

/-- A step makes one call if its payload is built and none otherwise, and ends accordingly. -/
theorem run_perform (invoker : Invoker) (hstandard : s.adapter ∈ standardRoutes.map Route.adapter)
    (hwritable : s.Writable) (j : Journal) :
    s.Ends invoker j.calls ((s.perform invoker).run j).1 ∧
      ((s.perform invoker).run j).2.calls = j.calls ++ s.call?.toList := by
  have hcandid := Adapter.candid_of_standard hstandard
  have hkeeps := Adapter.keeps_of_standard Json.hereditary_canWrite hstandard
  unfold call?
  cases hpayload : s.payload with
  | error f =>
    rw [run_perform_of_error hpayload]
    exact ⟨.refused hpayload (payload_own hcandid f hpayload), (List.append_nil _).symm⟩
  | ok payload =>
    cases s with
    | generate c prompt settings =>
      have hwrite := hkeeps.text _ _ _ _ hwritable.1 hwritable.2 hpayload
      obtain ⟨j', hrun, hcalls⟩ := c.run_generate invoker hpayload hwrite j
      rw [perform, run_map, hrun]
      exact ⟨ends_of_settle hpayload rfl rfl fun body => hcandid.completions _ _ _, hcalls⟩
    | complete c turns settings =>
      obtain ⟨j', hrun, hcalls⟩ := c.run_complete invoker hpayload j
      rw [perform, run_map, hrun]
      exact ⟨ends_of_settle hpayload rfl rfl fun response => Fault.ofConversion_own _, hcalls⟩
    | generateImage c description width height settings =>
      obtain ⟨_, hwidth, himage⟩ := ok_of_bind_eq_ok hpayload
      obtain ⟨_, hheight, himage⟩ := ok_of_bind_eq_ok himage
      obtain ⟨w, _, rfl⟩ := Client.of_checkSide hwidth
      obtain ⟨h, _, rfl⟩ := Client.of_checkSide hheight
      have hwrite := hkeeps.image _ _ _ _ _ _ hwritable.1 rfl rfl hwritable.2 himage
      obtain ⟨j', hrun, hcalls⟩ := c.run_generateImage invoker hwidth hheight himage hwrite j
      rw [perform, run_map, hrun]
      exact ⟨ends_of_settle hpayload rfl rfl fun body => hcandid.image _ _, hcalls⟩

/-- How a run of steps ends: each step as it does after the calls of the steps in front of it. -/
structure AllEnd (invoker : Invoker) (before : List Call) (steps : List Step)
    (outcomes : List (Except Fault StepResult)) : Prop where
  length_eq : outcomes.length = steps.length
  ends : ∀ (i : Nat) (s : Step) (outcome : Except Fault StepResult), steps[i]? = some s →
    outcomes[i]? = some outcome → s.Ends invoker (before ++ (steps.take i).filterMap call?) outcome

/-- A run of steps makes one call for each step whose payload is built, in order, and no other. A
step that was refused, or whose answer was, ends with that refusal; an error of the gateway from its
call passes unchanged, and any other failure is wrapped. -/
theorem performAll_calls_once (invoker : Invoker) (steps : List Step) (j : Journal)
    (hstandard : ∀ s ∈ steps, s.adapter ∈ standardRoutes.map Route.adapter)
    (hwritable : ∀ s ∈ steps, s.Writable) :
    AllEnd invoker j.calls steps ((performAll invoker steps).run j).1 ∧
      ((performAll invoker steps).run j).2.calls = j.calls ++ steps.filterMap call? := by
  induction steps generalizing j with
  | nil =>
    refine ⟨⟨rfl, ?_⟩, (List.append_nil _).symm⟩
    intro i s outcome hs
    rw [List.getElem?_nil] at hs
    cases hs
  | cons s rest ih =>
    obtain ⟨hs, hrest⟩ := List.forall_mem_cons.mp hstandard
    obtain ⟨hw, hwrest⟩ := List.forall_mem_cons.mp hwritable
    obtain ⟨hends, hcalls⟩ := run_perform invoker hs hw j
    obtain ⟨hall, hothers⟩ := ih ((s.perform invoker).run j).2 hrest hwrest
    have hrun : (performAll invoker (s :: rest)).run j =
        (((s.perform invoker).run j).1 ::
          ((performAll invoker rest).run ((s.perform invoker).run j).2).1,
          ((performAll invoker rest).run ((s.perform invoker).run j).2).2) := rfl
    -- The calls in front of a later step are the one of this step and those of the steps between.
    have hcons : ∀ more, (s :: more).filterMap call? = s.call?.toList ++ more.filterMap call? := by
      intro more
      rw [List.filterMap_cons]
      cases s.call? <;> rfl
    rw [hrun]
    refine ⟨⟨congrArg (· + 1) hall.length_eq, ?_⟩, ?_⟩
    · intro i t outcome ht houtcome
      cases i with
      | zero =>
        obtain rfl := Option.some.inj ht
        obtain rfl := Option.some.inj houtcome
        rwa [List.take_zero, List.filterMap_nil, List.append_nil]
      | succ i =>
        rw [List.take_succ_cons, hcons, ← List.append_assoc, ← hcalls]
        exact hall.ends i t outcome ht houtcome
    · rw [hothers, hcalls, hcons, List.append_assoc]

/-- A text, an image without a width, and a conversation. -/
def mixedSteps : List Step :=
  [.generate ⟨"amazon.titan-text-lite-v1",
      .make "amazon" "titan-" Titan.adapter textAndChat, false, true⟩ (.text "a") none,
   .generateImage ⟨"stability.stable-diffusion-xl-v1",
      .make "stability" "stable-diffusion" StableDiffusion.adapter [.textToImage], false, true⟩
      (.text "b") (.int 0) (.int 64) none,
   .complete ⟨"meta.llama3-8b-instruct-v1:0",
      .make "meta" "llama" Llama.adapter textAndChat, false, true⟩
      [.message (.make (.text "user") (.text "c"))] none]

/-- An invoker that fails without a text, or with an error of the gateway. -/
def failing : Invoker where
  invoke _ _ := .error (.foreign ⟨"TimeoutError", ""⟩)
  invokeStream _ _ := .failed (.foreign ⟨"TimeoutError", ""⟩)
  converse _ _ := .error (.gateway (.stated .malformedResponse "cut off"))
  converseStream _ _ := .failed (.gateway (.stated .malformedResponse "cut off"))

theorem performAll_mixedSteps :
    (∀ s ∈ mixedSteps, s.adapter ∈ standardRoutes.map Route.adapter) ∧
    (∀ s ∈ mixedSteps, s.Writable) ∧ (mixedSteps.filterMap call?).length = 2 ∧
    AllEnd failing [] mixedSteps ((performAll failing mixedSteps).run .empty).1 ∧
    ((performAll failing mixedSteps).run .empty).2.calls = mixedSteps.filterMap call? := by
  have hstandard : ∀ s ∈ mixedSteps, s.adapter ∈ standardRoutes.map Route.adapter := by
    unfold mixedSteps
    simp only [List.forall_mem_cons]
    refine ⟨?_, ?_, ?_, List.forall_mem_nil _⟩
    · exact List.mem_of_getElem? (i := 1) rfl
    · exact List.mem_of_getElem? (i := 10) rfl
    · exact List.mem_of_getElem? (i := 5) rfl
  have hwritable : ∀ s ∈ mixedSteps, s.Writable := by
    unfold mixedSteps
    simp only [List.forall_mem_cons]
    exact ⟨⟨rfl, Settings.All.none⟩, ⟨rfl, Settings.All.none⟩, trivial, List.forall_mem_nil _⟩
  obtain ⟨hends, hcalls⟩ := performAll_calls_once failing mixedSteps .empty hstandard hwritable
  exact ⟨hstandard, hwritable, rfl, hends, hcalls⟩

end Step
end ModelGateway
