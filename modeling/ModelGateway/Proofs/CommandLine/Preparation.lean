import ModelGateway.CommandLine.Run
import ModelGateway.Proofs.Run

/-!
# What comes before anything is shown

A command finds its configuration, its model and its settings and calls the model before it shows
anything. All of that may fail, but it only adds log lines to the error output and never meets the
standard output.
-/
namespace ModelGateway.CommandLine

/-- Events as they stand in the error output. -/
def logText (s : Surroundings) (events : List Event) : String :=
  String.join ((Event.lines s.env s.time events).map (· ++ "\n"))

theorem logText_nil (s : Surroundings) : logText s [] = "" := by
  unfold logText Event.lines
  split <;> rfl

theorem logText_append (s : Surroundings) (events more : List Event) :
    logText s (events ++ more) = logText s events ++ logText s more := by
  unfold logText Event.lines
  split
  · rw [List.map_append, List.map_append, String.join_append]
  · rfl

/-- That of what can be seen in a report only log lines are new since an earlier one. -/
structure Report.LoggedSince (s : Surroundings) (before after : Report) : Prop where
  stdout : after.stdout = before.stdout
  written : after.written = before.written
  stderr : ∃ events, after.stderr = before.stderr ++ logText s events

namespace Report.LoggedSince

variable {s : Surroundings} {r r' r'' : Report}

theorem refl (s : Surroundings) (r : Report) : r.LoggedSince s r where
  stdout := rfl
  written := rfl
  stderr := ⟨[], by rw [logText_nil, String.append_empty]⟩

theorem trans (h : r.LoggedSince s r') (h' : r'.LoggedSince s r'') : r.LoggedSince s r'' where
  stdout := h'.stdout.trans h.stdout
  written := h'.written.trans h.written
  stderr := by
    obtain ⟨events, hevents⟩ := h.stderr
    obtain ⟨more, hmore⟩ := h'.stderr
    refine ⟨events ++ more, ?_⟩
    rw [hmore, hevents, logText_append, String.append_assoc]

theorem stderr_of_empty (h : Report.empty.LoggedSince s r) :
    ∃ events, r.stderr = logText s events := by
  obtain ⟨events, hevents⟩ := h.stderr
  exact ⟨events, hevents.trans String.empty_append⟩

end Report.LoggedSince

namespace Action

variable {α β ε : Type} {s : Surroundings}

/-- That an action does not stop because the standard output refuses a text. -/
def Unrefused (action : Action α) : Prop := ∀ r f, (action.run r).1 ≠ .error (.output f)

/-- That an action, whether it fails or not, adds nothing but log lines and shows no text that could be
refused. -/
structure Silent (s : Surroundings) (action : Action α) : Prop where
  logged : ∀ r : Report, r.LoggedSince s (action.run r).2
  unrefused : action.Unrefused

/-- An action that always gives something is not refused. -/
theorem unrefused_of_ok {action : Action α} (h : ∀ r, ∃ a, (action.run r).1 = .ok a) :
    action.Unrefused := by
  intro r f hrefused
  obtain ⟨a, ha⟩ := h r
  cases ha.symm.trans hrefused

theorem unrefused_ofOutcome {why : ε → Abort} (hwhy : ∀ e f, why e ≠ .output f)
    (outcome : Except ε α) : (ofOutcome why outcome).Unrefused := by
  intro r f h
  cases outcome with
  | ok a => cases h
  | error e => exact hwhy e f (Except.error.inj h)

theorem Silent.bind {first : Action α} {next : α → Action β} (h : Silent s first)
    (hnext : ∀ a, Silent s (next a)) : Silent s (first >>= next) where
  logged r := by
    have hr := h.logged r
    rw [run_bind]
    rcases hrun : first.run r with ⟨why | a, r'⟩
    · rwa [hrun] at hr
    · rw [hrun] at hr
      exact hr.trans ((hnext a).logged r')
  unrefused r f := by
    have hr := h.unrefused r f
    rw [run_bind]
    rcases hrun : first.run r with ⟨why | a, r'⟩
    · rw [hrun] at hr
      exact fun hrefused => hr (congrArg Except.error (Except.error.inj hrefused))
    · exact (hnext a).unrefused r' f

theorem silent_pure (a : α) : Silent s (pure a : Action α) := 
  ⟨fun r => .refl s r, unrefused_of_ok fun _ => ⟨a, rfl⟩⟩

theorem silent_throw {why : Abort} (hwhy : ∀ f, why ≠ .output f) :
    Silent s (throw why : Action α) :=
  ⟨fun r => .refl s r, fun _ f h => hwhy f (Except.error.inj h)⟩

theorem silent_ofOutcome (why : ε → Abort) (hwhy : ∀ e f, why e ≠ .output f)
    (outcome : Except ε α) : Silent s (ofOutcome why outcome) :=
  ⟨fun r => .refl s r, unrefused_ofOutcome hwhy outcome⟩

theorem silent_ofFault (outcome : Except Fault α) : Silent s (ofOutcome .fault outcome) :=
  silent_ofOutcome .fault (fun _ _ => nofun) outcome

theorem silent_ofGateway (outcome : Except GatewayError α) : Silent s (ofGateway outcome) :=
  silent_ofOutcome (fun e => .fault (.gateway e)) (fun _ _ => nofun) outcome

theorem silent_journaled (session : StateM Journal α) : Silent s (journaled s session) :=
  ⟨fun _ => ⟨rfl, rfl, _, rfl⟩, unrefused_of_ok fun _ => ⟨_, rfl⟩⟩

theorem run_session (operation : Session α) (r : Report) :
    (session s operation).run r =
      ((operation.run ⟨r.calls, []⟩).1.mapError .fault, { r with
        calls := (operation.run ⟨r.calls, []⟩).2.calls
        stderr := r.stderr ++ logText s (operation.run ⟨r.calls, []⟩).2.events }) := rfl

theorem silent_session (operation : Session α) : Silent s (session s operation) :=
  (silent_journaled _).bind fun _ => silent_ofFault _

theorem silent_config (named : Option String) : Silent s (config s named) :=
  (silent_ofOutcome .file (fun _ _ => nofun) _).bind fun _ =>
    (silent_ofOutcome .config (fun _ _ => nofun) _).bind fun _ => silent_pure _

theorem silent_model (named : Option String) (key : String) (configured : Value) :
    Silent s (model named key configured) := by
  unfold model
  split
  · exact silent_pure _
  · split
    · exact silent_pure _
    · exact silent_throw nofun

theorem silent_connect (c : EffectiveConfig) : Silent s (connect s c) := by
  unfold connect
  split
  · exact ⟨fun r => ⟨rfl, rfl, (Report.LoggedSince.refl s r).stderr⟩,
      unrefused_of_ok fun _ => ⟨_, rfl⟩⟩
  · exact silent_throw nofun

theorem silent_settings (given : Option String) : Silent s (settings given) := by
  unfold settings
  split
  · exact silent_pure _
  · split
    · exact silent_pure _
    · exact silent_throw nofun
    · exact silent_throw nofun

end Action
end ModelGateway.CommandLine
