import ModelGateway.Proofs.Client.Log
import ModelGateway.Proofs.Decoding.Image
import ModelGateway.Proofs.Decoding.Strictness
import ModelGateway.Proofs.Event

/-!
# What a client logs is read back line by line

Error texts, model ids and the reasons that images come with may hold any characters. Each is a plain
value in the fields of its event, as long as the invoker's answers are plain, so no line of the log is
split by it, none is added, and each is read back as the record of what happened.
-/
namespace ModelGateway

/-- That a body that is decoded already is a plain value. -/
def Body.IsPlain : Body → Prop
  | octets _ => True
  | value v => Json.isPlain v = true

/-- That an invoker answers with plain bodies. -/
def Invoker.AnswersPlain (invoker : Invoker) : Prop :=
  ∀ before r body, invoker.invoke before r = .ok body → body.IsPlain

/-- The object of a plain body is plain, and so is the empty one that counts for it. -/
theorem Body.isPlain_object {body : Body} {strict : Bool} {o : Object} (hbody : body.IsPlain)
    (h : body.object strict = .ok o) : Json.isPlain (.object o) = true := by
  rcases body.holds_or_malformed with ⟨held, hholds, hdecoded⟩ | ⟨_, hempty, why, hrefused⟩
  · rw [hdecoded] at h
    obtain rfl := Except.ok.inj h
    cases body with
    | octets bytes =>
      obtain ⟨s, _, hparse⟩ := hholds
      exact Json.isPlain_of_parse hparse
    | value v =>
      cases v with
      | object inner =>
        obtain rfl : inner = held := hholds
        exact hbody
      | text s => exact Json.isPlain_of_parse hholds
      | _ => exact absurd hholds not_false
  · cases strict with
    | true =>
      rw [hrefused] at h
      cases h
    | false =>
      rw [hempty] at h
      obtain rfl := Except.ok.inj h
      rfl

/-! ## The reasons of images -/

namespace StableDiffusion

theorem isPlain_finishReason_artifactResult {artifact : Object}
    (h : Json.isPlain (.object artifact) = true) :
    Json.isPlain (artifactResult artifact).finishReason = true := by
  have hall := Json.hereditary_isPlain.all_of_object artifact h
  by_cases hnull : Object.value artifact "finishReason" = .null ∨
      Object.value artifact "base64" = .null
  · rw [artifactResult_of_null hnull]
    exact Json.hereditary_isPlain.value hall "finishReason"
  · obtain ⟨hreason, himage⟩ := not_or.mp hnull
    by_cases hsuccess : Object.value artifact "finishReason" = .text "SUCCESS"
    · rw [artifactResult_of_success hsuccess himage]
      rfl
    · rw [artifactResult_of_failure hreason hsuccess himage]
      rfl

theorem isPlain_finishReason {o : Object} (h : Json.isPlain (.object o) = true) :
    Json.isPlain (image o).finishReason = true := by
  have hartifacts := Json.hereditary_isPlain.value (Json.hereditary_isPlain.all_of_object o h)
    "artifacts"
  have hfirst : ∀ first, firstArtifact? o = some first → Json.isPlain first = true := by
    intro first hfirst
    unfold firstArtifact? at hfirst
    split at hfirst
    · rename_i head rest hlist
      obtain rfl := Option.some.inj hfirst
      rw [hlist] at hartifacts
      exact (Json.hereditary_isPlain.list_iff _).mp hartifacts _ List.mem_cons_self
    · cases hfirst
  rw [image_eq]
  split
  · rename_i artifact hartifact
    exact isPlain_finishReason_artifactResult (hfirst _ hartifact)
  · rfl
  · rfl

end StableDiffusion

/-- The images of standard adapters come with plain reasons. -/
theorem Adapter.isPlain_finishReason {a : Adapter}
    (hstandard : a ∈ standardRoutes.map Route.adapter) {body : Body} (hbody : body.IsPlain)
    {strict : Bool} {r : ImageResult} (h : a.image body strict = .ok r) :
    Json.isPlain r.finishReason = true := by
  rcases cases_of_standard hstandard with ⟨f, rfl⟩ | rfl | rfl | rfl
  · cases f <;> cases h
  · cases h
  · cases h
  · obtain ⟨o, ho, hr⟩ := Body.of_decodeWith (f := fun o => .ok (StableDiffusion.image o)) h
    obtain rfl := Except.ok.inj hr
    exact StableDiffusion.isPlain_finishReason (Body.isPlain_object hbody ho)

/-! ## What a use gains -/

/-- That an image, if that is what was gained, comes with a plain reason. -/
def Gain.IsPlain : Gain → Prop
  | .image result => Json.isPlain result.finishReason = true
  | _ => True

namespace Client

variable {capability : Capability} {c : Client capability} {invoker : Invoker}

theorem generateImage_isPlain {c : Client .textToImage}
    (hstandard : c.route.adapter ∈ standardRoutes.map Route.adapter)
    (hplain : invoker.AnswersPlain) {description width height : Value} {settings : Settings}
    {j j' : Journal} {result : ImageResult}
    (h : (c.generateImage invoker description width height settings).run j = (.ok result, j')) :
    Json.isPlain result.finishReason = true := by
  obtain ⟨_, _, _, h⟩ := ok_of_run_bind h
  obtain ⟨_, _, _, h⟩ := ok_of_run_bind h
  obtain ⟨payload, _, _, h⟩ := ok_of_run_bind h
  obtain ⟨body, _, hbody, h⟩ := ok_of_run_bind h
  obtain ⟨decoded, _, hdecoded, h⟩ := ok_of_run_bind h
  obtain ⟨r, hanswer, _⟩ := c.run_invoke_ok hbody
  have hreason : Json.isPlain decoded.finishReason = true :=
    Adapter.isPlain_finishReason hstandard (hplain _ _ _ hanswer) (Prod.mk.inj hdecoded).1
  -- Whether or not the image is remarked on, it is handed on as it was decoded.
  have hsame : decoded = result := by
    dsimp only at h
    split at h
    · obtain ⟨_, _, _, h⟩ := ok_of_run_bind h
      exact Except.ok.inj (Prod.mk.inj h).1
    · exact Except.ok.inj (Prod.mk.inj h).1
  rwa [hsame] at hreason

section
variable {life : Lifetime} {gain : Gain}

theorem gain_of_session {α : Type} {f : α → Gain} {action : Session α}
    (h : (life.session (f <$> action)).1 = .ok gain) :
    ∃ a j', action.run life.journal = (.ok a, j') ∧ f a = gain := by
  rw [Lifetime.session, run_map] at h
  rcases hrun : action.run life.journal with ⟨e | a, j'⟩
  · rw [hrun] at h
    cases h
  · rw [hrun] at h
    exact ⟨a, j', rfl, Except.ok.inj h⟩

theorem gain_of_opening {outcome : Except Fault OpenStream}
    (h : (life.opening outcome).1 = .ok gain) : gain = .opened := by
  cases outcome with
  | error f => cases h
  | ok stream => exact (Except.ok.inj h).symm

theorem gain_of_pulling {i : Nat} {next : Stream → Session (Option (String × Stream))}
    (h : (life.pulling i next).1 = .ok gain) : ∃ text, gain = .fragment text := by
  unfold Lifetime.pulling at h
  split at h
  · rename_i stream _
    rcases hrun : (next stream).run life.journal with ⟨f | _ | ⟨text, rest⟩, j⟩
    · rw [hrun] at h
      cases h
    · rw [hrun] at h
      exact ⟨none, (Except.ok.inj h).symm⟩
    · rw [hrun] at h
      exact ⟨some text, (Except.ok.inj h).symm⟩
  · exact ⟨none, (Except.ok.inj h).symm⟩

end

theorem perform_isPlain (hstandard : c.route.adapter ∈ standardRoutes.map Route.adapter)
    (hplain : invoker.AnswersPlain) {life : Lifetime} {use : Use capability} {gain : Gain}
    (h : (c.perform invoker life use).1 = .ok gain) : gain.IsPlain := by
  cases use with
  | generate prompt settings =>
    obtain ⟨_, _, _, rfl⟩ := gain_of_session h
    trivial
  | complete turns settings =>
    obtain ⟨_, _, _, rfl⟩ := gain_of_session h
    trivial
  | embed texts =>
    obtain ⟨_, _, _, rfl⟩ := gain_of_session h
    trivial
  | generateImage description width height settings =>
    obtain ⟨result, _, hrun, rfl⟩ := gain_of_session h
    exact generateImage_isPlain hstandard hplain hrun
  | openText prompt settings =>
    obtain rfl := gain_of_opening h
    trivial
  | openChat turns settings =>
    obtain rfl := gain_of_opening h
    trivial
  | pull i =>
    obtain ⟨_, rfl⟩ := gain_of_pulling h
    trivial

/-! ## Remarks -/

/-- The fields of a remark are plain if the reason that it may give is. -/
theorem isPlain_event (c : Client capability) {r : Remark}
    (h : ∀ status reason, r = .imageFailed status reason → Json.isPlain reason = true) :
    Json.isPlain (.object (r.event c).fields) = true := by
  cases r with
  | failed operation f => rfl
  | discarded count => rfl
  | imageFailed status reason =>
    have hkeys : ["model_id", "provider", "status", "finish_reason"].Nodup := by decide
    refine (Json.isPlain_object_iff _).mpr ⟨hkeys, ?_⟩
    simp [Remark.event, Remark.fields, h status reason rfl, Json.isPlain]

theorem isPlain_of_remarkOn? (hstandard : c.route.adapter ∈ standardRoutes.map Route.adapter)
    (hplain : invoker.AnswersPlain) {life : Lifetime} {use : Use capability} {r : Remark}
    (h : c.remarkOn? invoker life use = some r) :
    Json.isPlain (.object (r.event c).fields) = true := by
  refine isPlain_event c ?_
  rintro status reason rfl
  obtain ⟨operation, _, hremark⟩ := Option.bind_eq_some_iff.mp h
  cases hended : (c.perform invoker life use).1 with
  | error f =>
    rw [hended] at hremark
    -- The remark on a failure is that something failed.
    obtain ⟨failure, _, hfailed⟩ := Option.bind_eq_some_iff.mp hremark
    cases failure <;> cases hfailed
  | ok gain =>
    have hgain := perform_isPlain hstandard hplain hended
    rw [hended] at hremark
    cases gain with
    | completions given =>
      obtain ⟨body, _, hdiscarded⟩ := Option.bind_eq_some_iff.mp hremark
      cases (Option.ite_none_right_eq_some.mp hdiscarded).2
    | image result =>
      simp only [remark?, notice?] at hremark
      split at hremark
      · cases hremark
      · obtain ⟨_, rfl⟩ := Remark.imageFailed.inj (Option.some.inj hremark)
        exact hgain
    | _ => cases hremark

/-- What is remarked on in a run has plain fields. -/
theorem isPlain_of_mem_remarks (hstandard : c.route.adapter ∈ standardRoutes.map Route.adapter)
    (hplain : invoker.AnswersPlain) {uses : List (Use capability)} {r : Remark}
    (h : r ∈ c.remarks invoker uses) : Json.isPlain (.object (r.event c).fields) = true := by
  unfold remarks at h
  -- Later uses start from what the earlier ones left, so the run may start from any lifetime.
  revert h
  generalize Lifetime.start = life
  induction uses generalizing life with
  | nil => exact nofun
  | cons use rest ih =>
    rw [remarksFrom, List.mem_append, Option.mem_toList]
    rintro (hfirst | hrest)
    · exact isPlain_of_remarkOn? hstandard hplain hfirst
    · exact ih _ hrest

/-- The record of a remark: the event's name and time, the model and the provider, and what there is
to say. -/
def recordOf (c : Client capability) (time : String) (r : Remark) : Object :=
  [("event", .text r.name), ("ts", .text time), ("model_id", .text c.modelId),
    ("provider", .text c.route.provider)] ++ r.fields

/-- No field of a remark replaces the event's name or its time. -/
theorem record_event (time : String) (r : Remark) : (r.event c).record time = c.recordOf time r := by
  cases r <;> rfl

end Client

namespace Event

/-- An event is logged as one line, whatever its name and its fields hold: the line has no control
character, and with plain fields it is read back as the event's record, in which the fields are put
over the name and the time. What a number of events add to the output is cut at the line ends into
just their lines. So is what a client with a standard adapter logs in a run, if its invoker's answers
are plain, and its lines are read back as the records of what there was to remark on, in order. -/
theorem logged_lines_stay_whole (env : Environment) (time : String) (henabled : enabled env = true) :
    (∀ e : Event, output env time [e] = line time e ++ "\n" ∧ Json.NoControl (line time e).toList ∧
      (Json.isPlain (.object e.fields) = true →
        Json.parse (line time e) = .ok (.object (e.record time)) ∧
        ∀ key, Object.value? (e.record time) key = (Object.value? e.fields key).or
          (Object.value? [("event", .text e.name), ("ts", .text time)] key))) ∧
    (∀ events : List Event,
      Text.cutAtLineEnds (output env time events) = events.map (line time) ++ [""]) ∧
    ∀ {capability : Capability} (c : Client capability) (invoker : Invoker)
      (uses : List (Use capability)), c.route.adapter ∈ standardRoutes.map Route.adapter →
      invoker.AnswersPlain → c.logEvents = true →
      ∃ texts : List String,
        Text.cutAtLineEnds (output env time (c.after invoker uses).journal.events) = texts ++ [""] ∧
        List.Forall₂ (fun text r => Json.parse text = .ok (.object (c.recordOf time r))) texts
          (c.remarks invoker uses) := by
  refine ⟨fun e => ⟨?_, noControl_line time e, ?_⟩, cutAtLineEnds_output henabled, ?_⟩
  · rw [output_of_enabled henabled]
    simp
  · exact fun hplain => ⟨parse_line time hplain, value?_record time hplain⟩
  · intro capability c invoker uses hstandard hplain hlog
    have hevents : (c.after invoker uses).journal.events =
        (c.remarks invoker uses).map (Remark.event c) := by
      rw [Client.events_after hstandard, Client.entries, if_pos hlog]
    refine ⟨_, cutAtLineEnds_output henabled _, ?_⟩
    rw [hevents, List.map_map, List.forall₂_map_left_iff, List.forall₂_same]
    intro r hr
    rw [← Client.record_event]
    exact parse_line time (Client.isPlain_of_mem_remarks hstandard hplain hr)

/-- A client whose model id breaks a line. -/
def brokenId : Client .textToImage :=
  ⟨"sdxl\n1.0", .make "stability" "stable-diffusion" StableDiffusion.adapter [.textToImage], false,
    true⟩

/-- A reason with the line of another event in it. -/
def forgedReason : Value := .list [.text "\"\n\x7b\"event\": \"forged\"\x7d"]

def forging : Invoker where
  invoke _ _ := .ok (.value (.object [("artifacts", .list [.object
    [("finishReason", forgedReason)]])]))
  invokeStream _ _ := ⟨[], none⟩
  converse _ _ := .ok .null
  converseStream _ _ := ⟨[], none⟩

theorem forged_line_stays_in_its_event :
    enabled [] = true ∧ brokenId.route.adapter ∈ standardRoutes.map Route.adapter ∧
    forging.AnswersPlain ∧ ∃ text : String,
      Text.cutAtLineEnds (output [] "12:00" (brokenId.after forging
        [.generateImage (.text "a") (.int 64) (.int 64) none]).journal.events) = [text, ""] ∧
      Json.parse text = .ok (.object (brokenId.recordOf "12:00"
        (.imageFailed .invalid forgedReason))) := by
  have henabled : enabled [] = true := by decide +kernel
  have hstandard : brokenId.route.adapter ∈ standardRoutes.map Route.adapter :=
    List.mem_of_getElem? (i := 10) rfl
  have hplain : forging.AnswersPlain := by
    rintro before r _ ⟨⟩
    rfl
  obtain ⟨texts, hcut, hread⟩ := (logged_lines_stay_whole [] "12:00" henabled).2.2 brokenId forging
    [.generateImage (.text "a") (.int 64) (.int 64) none] hstandard hplain rfl
  have hremarks : brokenId.remarks forging [.generateImage (.text "a") (.int 64) (.int 64) none] =
      [.imageFailed .invalid forgedReason] := rfl
  rw [hremarks] at hread
  cases hread with
  | cons htext hnone =>
    cases hnone
    exact ⟨henabled, hstandard, hplain, _, hcut, htext⟩

end Event
end ModelGateway
