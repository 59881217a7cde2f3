import ModelGateway.Proofs.Client.Embedding
import ModelGateway.Proofs.Client.Operation
import ModelGateway.Proofs.CommandLine.Interruption
import ModelGateway.Proofs.Registry.Lookup

/-!
# A request that is only shown is the request that is sent

Showing the request of a model builds it as the client for that kind of requests does, and prints it
as JSON that reads back as what the client sends. Both refuse the same models. What is shown is sent
unless it is the request of an image with a side that is not positive: the client refuses such an
image, and showing its request does not look at the sides.
-/
namespace ModelGateway

namespace Client

theorem bind_of_find {capability : Capability} {modelId : String} {route : Route}
    (h : Registry.standard.find (.text modelId) = .ok route) (strict logEvents : Bool) :
    bind capability Registry.standard modelId strict logEvents =
      (route.require capability).map fun r => ⟨modelId, r, strict, logEvents⟩ := by
  unfold bind Registry.resolve
  rw [h]
  rfl

theorem bind_of_find_error {capability : Capability} {modelId : String} {e : GatewayError}
    (h : Registry.standard.find (.text modelId) = .error e) (strict logEvents : Bool) :
    bind capability Registry.standard modelId strict logEvents = .error e := by
  unfold bind Registry.resolve
  rw [h]
  rfl

/-- The calls of embedding one text. -/
theorem calls_of_embed_text (c : Client .embedding) (invoker : Invoker) {s : String}
    {r : ModelRequest} (h : c.Embeds (.text s) r) (j : Journal) :
    ((c.embed invoker (.text s)).run j).2.calls = j.calls ++ [.invoke r] := by
  obtain ⟨j', hrun, hcalls, _⟩ := run_embedOne invoker h j
  have hembed : (c.embed invoker (.text s)).run j =
      ((c.embedOne invoker (.text s) >>= fun v => pure [v]) : Session _).run j := by
    rw [embed, show embeddingTexts (.text s) = .ok [.text s] from rfl,
      run_bind_of_ok (Session.run_ofOutcome _ j), List.mapM_cons]
    rfl
  rw [hembed, run_bind, hrun]
  cases c.embeddingOutcome invoker j.calls r with
  | error f => exact hcalls
  | ok v => exact hcalls

theorem run_embed_text_of_error (c : Client .embedding) (invoker : Invoker) {s : String} {f : Fault}
    (h : c.route.adapter.embeddingRequest c.modelId (.text s) = .error f) (j : Journal) :
    (c.embed invoker (.text s)).run j = (.error f, j) := by
  rw [embed, show embeddingTexts (.text s) = .ok [.text s] from rfl,
    run_bind_of_ok (Session.run_ofOutcome _ j), List.mapM_cons, embedOne, h]
  rfl

end Client

namespace CommandLine

/-- That an argument gives settings: none when it is missing or empty, otherwise the object whose text
it is. -/
def Denotes (given : Option String) (settings : Settings) : Prop :=
  match given.filter (· ≠ "") with
  | none => settings = none
  | some text => ∃ o, Json.parse text = .ok (.object o) ∧ settings = some o

theorem Denotes.run_settings {given : Option String} {settings : Settings}
    (h : Denotes given settings) (r : Report) :
    (Action.settings given).run r = (.ok settings, r) := by
  unfold Denotes at h
  unfold Action.settings
  cases hgiven : given.filter (· ≠ "") with
  | none =>
    rw [hgiven] at h
    rw [h]
    rfl
  | some text =>
    rw [hgiven] at h
    obtain ⟨o, hparse, rfl⟩ := h
    dsimp only
    rw [hparse]
    rfl

theorem Denotes.plain {given : Option String} {settings : Settings} (h : Denotes given settings) :
    settings.All fun v => Json.isPlain v = true := by
  unfold Denotes at h
  split at h
  · rw [h]
    exact .none
  · obtain ⟨o, hparse, rfl⟩ := h
    intro o' ho'
    obtain rfl := Option.some.inj ho'
    exact Json.isPlain_of_parse hparse

/-- Settings that are written out are denoted by their text. -/
theorem denotes_bodyText {o : Object} (h : Json.isPlain (.object o) = true) :
    Denotes (some o.bodyText) (some o) := by
  have hgiven : (some o.bodyText).filter (· ≠ "") = some o.bodyText := by
    rw [Option.filter_some, if_pos (decide_eq_true (Object.bodyText_ne_empty h))]
  unfold Denotes
  rw [hgiven]
  exact ⟨o, Json.parse_render Json.Style.faithful_line h, rfl⟩

/-- What a request is made for. -/
structure RequestInput where
  modelId : String
  text : String
  width : Int
  height : Int
  settings : Settings

namespace RequestKind

def capability : RequestKind → Capability
  | text => .textGeneration
  | chat => .chat
  | embedding => .embedding
  | image => .textToImage

/-- What the client for a kind of requests does with one input. -/
def perform (invoker : Invoker) (input : RequestInput) :
    (kind : RequestKind) → Client kind.capability → Session Unit
  | text, c => do
    let _ ← Client.generate c invoker (.text input.text) input.settings
    return ()
  | chat, c => do
    let _ ← Client.complete c invoker [.message (.make (.text "user") (.text input.text))]
      input.settings
    return ()
  | embedding, c => do
    let _ ← Client.embed c invoker (.text input.text)
    return ()
  | image, c => do
    let _ ← Client.generateImage c invoker (.text input.text) (.int input.width)
      (.int input.height) input.settings
    return ()

/-- The client operation for a kind of requests: a client is bound for the model and used once. -/
def operation (invoker : Invoker) (strict logEvents : Bool) (input : RequestInput)
    (kind : RequestKind) : Session Unit := do
  let c ← Session.ofOutcome (Fault.ofGateway
    (Client.bind kind.capability Registry.standard input.modelId strict logEvents))
  kind.perform invoker input c

/-- The calls that the client operation makes. -/
def sent (invoker : Invoker) (strict logEvents : Bool) (input : RequestInput) (kind : RequestKind) :
    List Call :=
  ((kind.operation invoker strict logEvents input).run .empty).2.calls

/-- The call that hands a payload to the invoker. -/
def callWith (modelId : String) (payload : Object) : RequestKind → Call
  | chat => .converse payload
  | _ => .invoke ⟨modelId, "*/*", "application/json", payload.encodeBody⟩

/-- The request of a route for an input. -/
def request (input : RequestInput) (r : Route) : RequestKind → Except Fault Object
  | text => r.adapter.textRequest input.modelId (.text input.text) input.settings
  | chat => r.adapter.converseRequest input.modelId
      [.message (.make (.text "user") (.text input.text))] input.settings
  | embedding => r.adapter.embeddingRequest input.modelId (.text input.text)
  | image => r.adapter.imageRequest input.modelId (.text input.text) (.int input.width)
      (.int input.height) input.settings

/-- The request of a route that has to have the capability. -/
def built (input : RequestInput) (kind : RequestKind) (route : Route) : Except Fault Object := do
  kind.request input (← Fault.ofGateway (route.require kind.capability))

/-- A kind of requests takes every input but images with a side that is not positive. -/
def Takes (input : RequestInput) (kind : RequestKind) : Prop :=
  kind = image → 0 < input.width ∧ 0 < input.height

instance (input : RequestInput) (kind : RequestKind) : Decidable (kind.Takes input) :=
  inferInstanceAs (Decidable (_ → _))

variable {invoker : Invoker} {strict logEvents : Bool} {input : RequestInput} {kind : RequestKind}
  {route r : Route} {payload : Object} {f : Fault}

theorem payload_eq (input : RequestInput) (kind : RequestKind) (route : Route) :
    Action.payload input.modelId kind (.text input.text) (.int input.width) (.int input.height)
      input.settings route = kind.built input route := by
  cases kind <;> rfl

theorem calls_of_ignored {α : Type} {action : Session α} {outcome : Except Fault α} {j j' : Journal}
    (h : action.run j = (outcome, j')) :
    ((do
      let _ ← action
      return () : Session Unit).run j).2.calls = j'.calls := by
  rw [run_bind, h]
  cases outcome <;> rfl

/-- A client that takes an input makes the call of its request. -/
theorem perform_calls (invoker : Invoker) (strict logEvents : Bool) (htakes : kind.Takes input)
    (h : kind.request input r = .ok payload) (hwrite : Object.canWrite payload = true)
    (j : Journal) :
    ((kind.perform invoker input ⟨input.modelId, r, strict, logEvents⟩).run j).2.calls =
      j.calls ++ [kind.callWith input.modelId payload] := by
  cases kind with
  | text =>
    obtain ⟨j', hrun, hcalls⟩ := Client.run_generate invoker
      ⟨input.modelId, r, strict, logEvents⟩ h hwrite j
    exact (calls_of_ignored hrun).trans hcalls
  | chat =>
    obtain ⟨j', hrun, hcalls⟩ := Client.run_complete invoker
      ⟨input.modelId, r, strict, logEvents⟩ h j
    exact (calls_of_ignored hrun).trans hcalls
  | embedding =>
    have hcalls := Client.calls_of_embed_text ⟨input.modelId, r, strict, logEvents⟩ invoker
      ⟨payload, h, hwrite, rfl⟩ j
    exact (calls_of_ignored rfl).trans hcalls
  | image =>
    obtain ⟨hwidth, hheight⟩ := htakes rfl
    obtain ⟨j', hrun, hcalls⟩ := Client.run_generateImage invoker
      ⟨input.modelId, r, strict, logEvents⟩ (Client.checkSide_of_pos hwidth _)
      (Client.checkSide_of_pos hheight _) h hwrite j
    exact (calls_of_ignored hrun).trans hcalls

/-- Where no request is built, the client fails before it calls. -/
theorem perform_calls_of_error (invoker : Invoker) (strict logEvents : Bool)
    (htakes : kind.Takes input) (h : kind.request input r = .error f) (j : Journal) :
    ((kind.perform invoker input ⟨input.modelId, r, strict, logEvents⟩).run j).2.calls =
      j.calls := by
  cases kind with
  | text =>
    exact calls_of_ignored
      (Client.run_generate_of_error invoker ⟨input.modelId, r, strict, logEvents⟩ h j)
  | chat =>
    exact calls_of_ignored
      (Client.run_complete_of_error invoker ⟨input.modelId, r, strict, logEvents⟩ h j)
  | embedding =>
    exact calls_of_ignored
      (Client.run_embed_text_of_error ⟨input.modelId, r, strict, logEvents⟩ invoker h j)
  | image =>
    obtain ⟨hwidth, hheight⟩ := htakes rfl
    refine calls_of_ignored (Client.run_generateImage_of_error (f := f) invoker _ ?_ j)
    rw [Client.checkSide_of_pos hwidth, Client.checkSide_of_pos hheight]
    exact h

/-- An image with a side that is not positive is refused whatever the route. -/
theorem perform_calls_of_not_takes {c : Client kind.capability} (invoker : Invoker)
    (h : ¬kind.Takes input) (j : Journal) :
    ((kind.perform invoker input c).run j).2.calls = j.calls := by
  obtain ⟨rfl, hsides⟩ := Classical.not_imp.mp h
  -- The width is looked at first, and the height only if the width passes.
  have hrefused : ∃ f, (do
      Client.checkSide "width" (.int input.width)
      Client.checkSide "height" (.int input.height)
      c.route.adapter.imageRequest c.modelId (.text input.text) (.int input.width)
        (.int input.height) input.settings) = .error f := by
    by_cases hwidth : 0 < input.width
    · have hheight : ¬0 < input.height := fun hheight => hsides ⟨hwidth, hheight⟩
      rw [Client.checkSide_of_pos hwidth, Client.checkSide, if_neg hheight]
      exact ⟨_, rfl⟩
    · rw [Client.checkSide, if_neg hwidth]
      exact ⟨_, rfl⟩
  obtain ⟨f, hf⟩ := hrefused
  exact calls_of_ignored (Client.run_generateImage_of_error invoker c hf j)

/-! ## What is sent -/

theorem sent_of_find (hfind : Registry.standard.find (.text input.modelId) = .ok route) :
    kind.sent invoker strict logEvents input =
      match route.require kind.capability with
      | .ok r => ((kind.perform invoker input
          ⟨input.modelId, r, strict, logEvents⟩).run .empty).2.calls
      | .error _ => [] := by
  unfold sent operation
  rw [Client.bind_of_find hfind]
  cases route.require kind.capability <;> rfl

/-- A model that is not found is sent nothing. -/
theorem sent_of_not_found {e : GatewayError}
    (hfind : Registry.standard.find (.text input.modelId) = .error e) :
    kind.sent invoker strict logEvents input = [] := by
  unfold sent operation
  rw [Client.bind_of_find_error hfind]
  rfl

theorem sent_of_not_takes (h : ¬kind.Takes input) :
    kind.sent invoker strict logEvents input = [] := by
  cases hfind : Registry.standard.find (.text input.modelId) with
  | error e => exact sent_of_not_found hfind
  | ok route =>
    rw [sent_of_find hfind]
    split
    · exact perform_calls_of_not_takes invoker h .empty
    · rfl

/-- What is built is sent, if the client takes the input. -/
theorem sent_of_payload (hfind : Registry.standard.find (.text input.modelId) = .ok route)
    (hpayload : kind.built input route = .ok payload)
    (hwrite : Object.canWrite payload = true) (htakes : kind.Takes input) :
    kind.sent invoker strict logEvents input = [kind.callWith input.modelId payload] := by
  obtain ⟨r, hr, hrequest⟩ := ok_of_bind_eq_ok hpayload
  rw [sent_of_find hfind, Fault.ok_of_ofGateway hr]
  exact perform_calls invoker strict logEvents htakes hrequest hwrite .empty

/-- Where nothing is built, nothing is sent. -/
theorem sent_of_refused (hfind : Registry.standard.find (.text input.modelId) = .ok route)
    (hpayload : kind.built input route = .error f) :
    kind.sent invoker strict logEvents input = [] := by
  by_cases htakes : kind.Takes input
  · unfold built at hpayload
    rw [sent_of_find hfind]
    cases hr : route.require kind.capability with
    | error e => rfl
    | ok r =>
      rw [hr] at hpayload
      exact perform_calls_of_error invoker strict logEvents htakes hpayload .empty
  · exact sent_of_not_takes htakes

/-- The requests of standard routes can be read back from what is printed. -/
theorem payload_plain (hfind : Registry.standard.find (.text input.modelId) = .ok route)
    (hsettings : input.settings.All fun v => Json.isPlain v = true)
    (hpayload : kind.built input route = .ok payload) :
    Json.isPlain (.object payload) = true := by
  obtain ⟨r, hr, hrequest⟩ := ok_of_bind_eq_ok hpayload
  obtain ⟨_, rfl⟩ := Client.of_require_ok hr
  have hkeeps := Adapter.keeps_of_standard Json.hereditary_isPlain (Registry.adapter_of_find hfind)
  cases kind with
  | text => exact hkeeps.text _ _ _ _ rfl hsettings hrequest
  | chat =>
    exact hkeeps.converse _ _ _ _ (List.forall_mem_singleton.mpr rfl) hsettings hrequest
  | embedding => exact hkeeps.embedding _ _ _ rfl hrequest
  | image => exact hkeeps.image _ _ _ _ _ _ rfl rfl rfl hsettings hrequest

end RequestKind

/-! ## What is shown -/

open RequestKind (sent Takes callWith)

variable {s : Surroundings} {input : RequestInput} {kind : RequestKind} {given : Option String}

/-- The action that shows a request. -/
def RequestInput.shown (s : Surroundings) (input : RequestInput) (kind : RequestKind)
    (given : Option String) : Action Nat :=
  Action.encode s input.modelId kind (.text input.text) (.int input.width) (.int input.height) given

theorem run_shown_of_not_found {e : GatewayError}
    (hfind : Registry.standard.find (.text input.modelId) = .error e) (r : Report) :
    (input.shown s kind given).run r = (.error (.fault (.gateway e)), r) := by
  unfold RequestInput.shown Action.encode
  rw [hfind]
  rfl

section
variable {route : Route} (hfind : Registry.standard.find (.text input.modelId) = .ok route)
  (hgiven : Denotes given input.settings)
include hfind hgiven

/-- Once the route is found and the settings are read, what is left is to build and to print. -/
theorem run_shown_of_found (r : Report) :
    (input.shown s kind given).run r = (do
      let payload ← Action.ofOutcome .fault (kind.built input route)
      if Object.canWrite payload then
        Action.print s (Json.render .indented (.object payload))
        return 0
      else throw (.fault (.conversion .notWritable)) : Action Nat).run r := by
  have hroute : (Action.ofGateway (.ok route) : Action Route).run r = (.ok route, r) := rfl
  unfold RequestInput.shown Action.encode
  rw [hfind, run_bind_of_ok hroute, run_bind_of_ok (hgiven.run_settings r),
    RequestKind.payload_eq]

theorem run_shown_of_refused {f : Fault}
    (hpayload : kind.built input route = .error f) (r : Report) :
    (input.shown s kind given).run r = (.error (.fault f), r) := by
  rw [run_shown_of_found hfind hgiven, hpayload]
  rfl

theorem run_shown_of_payload {payload : Object}
    (hpayload : kind.built input route = .ok payload) (r : Report) :
    (input.shown s kind given).run r =
      if Object.canWrite payload then
        (do
          Action.print s (Json.render .indented (.object payload))
          return 0 : Action Nat).run r
      else (.error (.fault (.conversion .notWritable)), r) := by
  have hok : (Action.ofOutcome .fault (.ok payload) : Action Object).run r = (.ok payload, r) := rfl
  rw [run_shown_of_found hfind hgiven, hpayload, run_bind_of_ok hok]
  cases Object.canWrite payload <;> rfl

end

/-- That an action stops with an error about the model or about its capability. -/
def RefusesModel (action : Action Nat) : Prop :=
  ∃ e report, action.run .empty = (.error (.fault (.gateway e)), report) ∧
    (e.kind = .unsupportedModel ∨ e.kind = .unsupportedOperation)

/-- Showing a request that the route has no capability for is refused. -/
theorem refusesModel_of_not_supported {route : Route}
    (hfind : Registry.standard.find (.text input.modelId) = .ok route)
    (hgiven : Denotes given input.settings) (h : route.supports kind.capability = false) :
    RefusesModel (input.shown s kind given) := by
  have hpayload : kind.built input route =
      .error (.gateway (.unsupportedOperation route.provider kind.capability.name)) := by
    rw [RequestKind.built, Route.require, if_neg (Bool.eq_false_iff.mp h)]
    rfl
  exact ⟨_, _, run_shown_of_refused hfind hgiven hpayload .empty, .inr rfl⟩

theorem Arguments.of_exit_zero {line : Arguments}
    (h : (line.run s).1 = .exit 0) : (line.action s).run .empty = (.ok 0, (line.run s).2) := by
  unfold run at h ⊢
  rcases hrun : (line.action s).run .empty with ⟨outcome, report⟩
  rw [hrun] at h
  cases outcome with
  | ok code =>
    cases h
    rfl
  | error why =>
    split at h
    · rename_i heq
      cases heq
    · cases h
    · cases h

theorem Arguments.run_of_gateway (s : Surroundings) (line : Arguments) {e : GatewayError}
    {report : Report} (h : (line.action s).run .empty = (.error (.fault (.gateway e)), report)) :
    (line.run s).1 = .exit 2 := by
  unfold run
  rw [h]

/-- The arguments that ask for a request to be shown. -/
def RequestInput.line (input : RequestInput) (config : Option String) (kind : RequestKind)
    (given : Option String) : Arguments :=
  ⟨config, .encode input.modelId kind (.text input.text) (.int input.width) (.int input.height)
    given⟩

theorem RequestInput.line_action (input : RequestInput) (config : Option String)
    (kind : RequestKind) (given : Option String) (s : Surroundings) :
    (input.line config kind given).action s = input.shown s kind given := rfl

/-- A request that is built and can be written is shown where every text is taken. -/
theorem exits_zero_of_payload (hs : s.TakesAll) (config : Option String) (input : RequestInput)
    (kind : RequestKind) (given : Option String) {route : Route} {payload : Object}
    (hfind : Registry.standard.find (.text input.modelId) = .ok route)
    (hgiven : Denotes given input.settings)
    (hpayload : kind.built input route = .ok payload)
    (hwrite : Object.canWrite payload = true) :
    ((input.line config kind given).run s).1 = .exit 0 := by
  unfold Arguments.run
  rw [RequestInput.line_action, run_shown_of_payload hfind hgiven hpayload, if_pos hwrite,
    run_bind_of_ok (Action.run_print hs _ _)]
  rfl

/-- What is shown is the request of the route that is found, and it reads back from what is printed. -/
theorem of_shown (hgiven : Denotes given input.settings) {report : Report}
    (h : (input.shown s kind given).run .empty = (.ok 0, report)) :
    ∃ route payload, Registry.standard.find (.text input.modelId) = .ok route ∧
      kind.built input route = .ok payload ∧
      Object.canWrite payload = true ∧ Json.parse report.stdout = .ok (.object payload) := by
  cases hfind : Registry.standard.find (.text input.modelId) with
  | error e =>
    rw [run_shown_of_not_found hfind] at h
    cases h
  | ok route =>
    cases hpayload : kind.built input route with
    | error f =>
      rw [run_shown_of_refused hfind hgiven hpayload] at h
      cases h
    | ok payload =>
      rw [run_shown_of_payload hfind hgiven hpayload] at h
      split at h
      · rename_i hwrite
        obtain ⟨_, printed, hprinted, hdone⟩ := ok_of_run_bind h
        obtain rfl : printed = report := (Prod.mk.inj hdone).2
        obtain rfl := Action.report_of_print hprinted
        have hplain := RequestKind.payload_plain hfind hgiven.plain hpayload
        refine ⟨route, payload, rfl, hpayload, hwrite, ?_⟩
        -- Nothing was printed before, so the whole output is the payload and a line break.
        change Json.parse ("" ++ _) = _
        rw [String.empty_append, Json.parse_render_line Json.Style.faithful_indented hplain]
      · cases h

/-- Where showing a request stops with an error of the gateway, the client makes no call. -/
theorem sent_of_shown_error {e : GatewayError} (hgiven : Denotes given input.settings)
    {report : Report}
    (h : (input.shown s kind given).run .empty = (.error (.fault (.gateway e)), report))
    (invoker : Invoker) (strict logEvents : Bool) :
    kind.sent invoker strict logEvents input = [] := by
  cases hfind : Registry.standard.find (.text input.modelId) with
  | error e => exact RequestKind.sent_of_not_found hfind
  | ok route =>
    cases hpayload : kind.built input route with
    | error f => exact RequestKind.sent_of_refused hfind hpayload
    | ok payload =>
      rw [run_shown_of_payload hfind hgiven hpayload] at h
      split at h
      · rw [run_bind] at h
        rcases Action.run_print_or_refused s (Json.render .indented (.object payload)) .empty with
          hprinted | ⟨_, _, hrefused⟩
        · rw [hprinted] at h
          cases h
        · rw [hrefused] at h
          cases h
      · cases h

/-- A request is shown as the JSON of exactly what the client hands to its invoker, unless the client
does not take the input: then it calls nobody. Nor does it where showing the request stops because of
the model or its capability. -/
theorem encode_shows_what_is_sent (s : Surroundings) (config : Option String) (input : RequestInput)
    (kind : RequestKind) (given : Option String) (hgiven : Denotes given input.settings)
    (invoker : Invoker) (strict logEvents : Bool) :
    (((input.line config kind given).run s).1 = .exit 0 → ∃ payload,
      Json.parse ((input.line config kind given).run s).2.stdout = .ok (.object payload) ∧
      kind.sent invoker strict logEvents input =
        if kind.Takes input then [kind.callWith input.modelId payload] else []) ∧
    (RefusesModel ((input.line config kind given).action s) →
      ((input.line config kind given).run s).1 = .exit 2 ∧
        kind.sent invoker strict logEvents input = []) := by
  constructor
  · intro hexit
    have hrun := Arguments.of_exit_zero hexit
    rw [RequestInput.line_action] at hrun
    obtain ⟨route, payload, hfind, hpayload, hwrite, hparse⟩ := of_shown hgiven hrun
    refine ⟨payload, hparse, ?_⟩
    split
    · rename_i htakes
      exact RequestKind.sent_of_payload hfind hpayload hwrite htakes
    · rename_i htakes
      exact RequestKind.sent_of_not_takes htakes
  · intro hrefuses
    obtain ⟨_, _, hrun, -⟩ := hrefuses
    refine ⟨Arguments.run_of_gateway s _ hrun, ?_⟩
    rw [RequestInput.line_action] at hrun
    exact sent_of_shown_error hgiven hrun invoker strict logEvents

/-- A place with no files, no variables and no service. -/
def noSurroundings : Surroundings where
  env := []
  fileText _ := .ok none
  writeFault _ := none
  refusal? _ _ := none
  service := none
  time := ""

theorem takesAll_noSurroundings : noSurroundings.TakesAll := fun _ _ => rfl

/-- A small image of a cat, with a seed. -/
def seededCat : RequestInput :=
  ⟨"stability.stable-diffusion-xl-v1", "a cat", 64, 64, some [("seed", .int 7)]⟩

/-- An image of a cat without a width. -/
def flatCat : RequestInput := ⟨"stability.stable-diffusion-xl-v1", "a cat", 0, 64, none⟩

theorem denotes_seed : Denotes (some (Object.bodyText [("seed", .int 7)])) seededCat.settings :=
  denotes_bodyText rfl

/-- The image is shown and sent; its model has no conversations, so none is shown and none is sent. -/
theorem encode_seeded_cat :
    Denotes (some (Object.bodyText [("seed", .int 7)])) seededCat.settings ∧
    (∃ payload, Json.parse ((seededCat.line none .image
        (some (Object.bodyText [("seed", .int 7)]))).run noSurroundings).2.stdout =
          .ok (.object payload) ∧
      RequestKind.image.sent Step.failing false true seededCat =
        [RequestKind.image.callWith seededCat.modelId payload]) ∧
    ((seededCat.line none .chat (some (Object.bodyText [("seed", .int 7)]))).run
        noSurroundings).1 = .exit 2 ∧
      RequestKind.chat.sent Step.failing false true seededCat = [] := by
  have hexit := exits_zero_of_payload takesAll_noSurroundings none seededCat .image _ rfl denotes_seed rfl rfl
  have hrefused : RefusesModel (seededCat.shown noSurroundings .chat (some (Object.bodyText [("seed", .int 7)]))) :=
    refusesModel_of_not_supported rfl denotes_seed rfl
  have himage := (encode_shows_what_is_sent noSurroundings none seededCat .image _ denotes_seed
    Step.failing false true).1 hexit
  have hchat := (encode_shows_what_is_sent noSurroundings none seededCat .chat _ denotes_seed
    Step.failing false true).2 hrefused
  exact ⟨denotes_seed, himage, hchat⟩

/-- An image without a width is shown, and its client makes no call. -/
theorem not_everything_shown_is_sent :
    ((flatCat.line none .image none).run noSurroundings).1 = .exit 0 ∧
    RequestKind.image.sent Step.failing false true flatCat = [] := by
  have hexit := exits_zero_of_payload takesAll_noSurroundings none flatCat .image none rfl rfl rfl rfl
  exact ⟨hexit, rfl⟩

end CommandLine
end ModelGateway
