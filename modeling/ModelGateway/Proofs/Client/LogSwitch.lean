import ModelGateway.Proofs.Client.Capability

/-!
# Whether a client logs changes nothing else

Nothing reads the events of a journal: how an action goes depends on the calls before it only. So two
clients that differ in whether they log end every use alike, make the same calls and are left with
the same streams.
-/
namespace ModelGateway

/-! ## Sessions -/

/-- That two actions, after the same calls, end alike and make the same calls. -/
def Session.Alike {α : Type} (action action' : Session α) : Prop :=
  ∀ j j', j.calls = j'.calls → (action.run j).1 = (action'.run j').1 ∧
    (action.run j).2.calls = (action'.run j').2.calls

namespace Session.Alike

variable {α β : Type} {action action' : Session α}

theorem ofOutcome (outcome : Except Fault α) :
    Alike (Session.ofOutcome outcome) (Session.ofOutcome outcome) := fun _ _ h => ⟨rfl, h⟩

theorem pure (a : α) : Alike (pure a) (pure a) := fun _ _ h => ⟨rfl, h⟩

theorem record (call : Call) : Alike (Session.record call) (Session.record call) := by
  intro j j' h
  rw [run_record, run_record, h]
  exact ⟨rfl, rfl⟩

theorem bind {next next' : α → Session β} (h : Alike action action')
    (hnext : ∀ a, Alike (next a) (next' a)) : Alike (action >>= next) (action' >>= next') := by
  intro j j' hcalls
  obtain ⟨houtcome, hafter⟩ := h j j' hcalls
  rw [run_bind, run_bind]
  rcases hrun : action.run j with ⟨outcome, after⟩
  rcases hrun' : action'.run j' with ⟨outcome', after'⟩
  rw [hrun, hrun'] at houtcome hafter
  obtain rfl : outcome = outcome' := houtcome
  cases outcome with
  | error f => exact ⟨rfl, hafter⟩
  | ok a => exact hnext a after after' hafter

theorem map (f : α → β) (h : Alike action action') : Alike (f <$> action) (f <$> action') := by
  rw [← bind_pure_comp, ← bind_pure_comp]
  exact h.bind fun _ => pure _

theorem mapM {action action' : α → Session β} (h : ∀ a, Alike (action a) (action' a))
    (items : List α) : Alike (items.mapM action) (items.mapM action') := by
  induction items with
  | nil => exact pure _
  | cons a rest ih =>
    rw [List.mapM_cons, List.mapM_cons]
    exact (h a).bind fun _ => ih.bind fun _ => pure _

theorem forM {action action' : α → Session PUnit} (h : ∀ a, Alike (action a) (action' a))
    (items : List α) : Alike (items.forM action) (items.forM action') := by
  induction items with
  | nil => exact pure _
  | cons a rest ih => exact (h a).bind fun _ => ih

end Session.Alike

/-! ## Clients -/

namespace Client

/-- The client with its log switched on or off. -/
def logging {capability : Capability} (c : Client capability) (on : Bool) : Client capability :=
  { c with logEvents := on }

variable {capability : Capability} (c : Client capability) (on : Bool) (invoker : Invoker)

open Session (Alike)

theorem log_alike (name : String) (fields : Object) :
    Alike (c.log name fields) ((c.logging on).log name fields) := by
  intro j j' h
  obtain ⟨after, hrun, hcalls⟩ := c.quiet_log name fields j
  obtain ⟨after', hrun', hcalls'⟩ := (c.logging on).quiet_log name fields j'
  rw [hrun, hrun']
  exact ⟨rfl, hcalls.trans (h.trans hcalls'.symm)⟩

theorem fail_alike {α : Type} (operation : String) (failure : Failure) :
    Alike (c.fail operation failure : Session α) ((c.logging on).fail operation failure) := by
  intro j j' h
  rw [run_fail, run_fail]
  exact ⟨rfl, (c.noted_calls _ _ _).trans (h.trans ((c.logging on).noted_calls _ _ _).symm)⟩

theorem invoke_alike (payload : Object) :
    Alike (c.invoke invoker payload) ((c.logging on).invoke invoker payload) := by
  unfold invoke
  split
  · refine (Alike.record _).bind fun before => ?_
    have hrequest : (c.logging on).modelRequest payload = c.modelRequest payload := rfl
    rw [hrequest]
    cases invoker.invoke before (c.modelRequest payload) with
    | ok body => exact .pure _
    | error failure => exact c.fail_alike on _ _
  · exact c.fail_alike on _ _

theorem generate_alike (c : Client .textGeneration) (prompt : Value) (settings : Settings) :
    Alike (c.generate invoker prompt settings) ((c.logging on).generate invoker prompt settings) := by
  have hremark : ∀ completion, Alike (c.logDiscarded completion)
      ((c.logging on).logDiscarded completion) := by
    intro completion
    unfold logDiscarded
    dsimp only
    split
    · exact c.log_alike on _ _
    · exact .pure _
  exact (Alike.ofOutcome _).bind fun payload => (c.invoke_alike on invoker payload).bind fun body =>
    (Alike.ofOutcome _).bind fun completions => (Alike.forM hremark completions).bind fun _ => .pure _

theorem complete_alike (c : Client .chat) (turns : List Turn) (settings : Settings) :
    Alike (c.complete invoker turns settings) ((c.logging on).complete invoker turns settings) := by
  refine (Alike.ofOutcome _).bind fun request => (Alike.record _).bind fun before => ?_
  split
  · exact .ofOutcome _
  · exact c.fail_alike on _ _

theorem embed_alike (c : Client .embedding) (texts : Value) :
    Alike (c.embed invoker texts) ((c.logging on).embed invoker texts) :=
  (Alike.ofOutcome _).bind fun items => Alike.mapM (fun _ => (Alike.ofOutcome _).bind fun payload =>
    (c.invoke_alike on invoker payload).bind fun _ => .ofOutcome _) items

theorem generateImage_alike (c : Client .textToImage) (description width height : Value)
    (settings : Settings) : Alike (c.generateImage invoker description width height settings)
      ((c.logging on).generateImage invoker description width height settings) := by
  refine (Alike.ofOutcome _).bind fun _ => (Alike.ofOutcome _).bind fun _ =>
    (Alike.ofOutcome _).bind fun payload => (c.invoke_alike on invoker payload).bind fun body =>
      (Alike.ofOutcome _).bind fun result => ?_
  dsimp only
  split
  · exact (c.log_alike on _ _).bind fun _ => .pure _
  · exact .pure _

theorem nextItem_alike {α : Type} (operation : String) (decode : α → Except Fault (Option String))
    (wrap : Delivery α → Stream) (d : Delivery α) : Alike (c.nextItem operation decode wrap d)
      ((c.logging on).nextItem operation decode wrap d) := by
  refine (Alike.ofOutcome _).bind fun item => ?_
  split
  · exact .pure _
  · split
    · exact c.fail_alike on _ _
    · exact .pure _

theorem next_alike (stream : Stream) :
    Alike (c.next invoker stream) ((c.logging on).next invoker stream) := by
  cases stream with
  | opened stream =>
    cases stream with
    | text payload =>
      simp only [next]
      split
      · exact (Alike.record _).bind fun _ => c.nextItem_alike on _ _ _ _
      · exact c.fail_alike on _ _
    | chat request => exact (Alike.record _).bind fun _ => c.nextItem_alike on _ _ _ _
  | chunks rest => exact c.nextItem_alike on _ _ _ rest
  | events rest => exact c.nextItem_alike on _ _ _ rest

end Client

/-! ## Lifetimes -/

/-- That two lifetimes have the same calls and the same streams. -/
structure Lifetime.Alike (life life' : Lifetime) : Prop where
  calls : life.journal.calls = life'.journal.calls
  streams : life.streams = life'.streams

namespace Lifetime

variable {life life' : Lifetime}

theorem session_alike {α : Type} {action action' : Session α} (gain : α → Gain)
    (hlife : life.Alike life') (h : Session.Alike action action') :
    (life.session (gain <$> action)).1 = (life'.session (gain <$> action')).1 ∧
      (life.session (gain <$> action)).2.Alike (life'.session (gain <$> action')).2 := by
  obtain ⟨houtcome, hcalls⟩ := h.map gain life.journal life'.journal hlife.calls
  exact ⟨houtcome, hcalls, hlife.streams⟩

theorem opening_alike (outcome : Except Fault OpenStream) (hlife : life.Alike life') :
    (life.opening outcome).1 = (life'.opening outcome).1 ∧
      (life.opening outcome).2.Alike (life'.opening outcome).2 := by
  cases outcome with
  | error f => exact ⟨rfl, hlife⟩
  | ok stream => exact ⟨rfl, hlife.calls, congrArg (· ++ _) hlife.streams⟩

theorem pulling_alike {next next' : Stream → Session (Option (String × Stream))} (i : Nat)
    (hlife : life.Alike life') (h : ∀ stream, Session.Alike (next stream) (next' stream)) :
    (life.pulling i next).1 = (life'.pulling i next').1 ∧
      (life.pulling i next).2.Alike (life'.pulling i next').2 := by
  unfold pulling
  rw [← hlife.streams]
  split
  · rename_i stream _
    obtain ⟨houtcome, hcalls⟩ := h stream life.journal life'.journal hlife.calls
    rcases hrun : (next stream).run life.journal with ⟨outcome, j⟩
    rcases hrun' : (next' stream).run life'.journal with ⟨outcome', j'⟩
    rw [hrun, hrun'] at houtcome hcalls
    obtain rfl : outcome = outcome' := houtcome
    rcases outcome with f | _ | ⟨text, rest⟩
    · exact ⟨rfl, hcalls, rfl⟩
    · exact ⟨rfl, hcalls, rfl⟩
    · exact ⟨rfl, hcalls, rfl⟩
  · exact ⟨rfl, hlife⟩

end Lifetime

namespace Client

variable {capability : Capability}

/-- One use ends alike, whether or not the client logs it or logged what was before it. -/
theorem perform_alike (c : Client capability) (on : Bool) (invoker : Invoker) {life life' : Lifetime}
    (hlife : life.Alike life') (use : Use capability) :
    (c.perform invoker life use).1 = ((c.logging on).perform invoker life' use).1 ∧
      (c.perform invoker life use).2.Alike ((c.logging on).perform invoker life' use).2 := by
  cases use with
  | generate prompt settings =>
    exact Lifetime.session_alike .completions hlife (c.generate_alike on invoker prompt settings)
  | openText prompt settings => exact Lifetime.opening_alike (c.openText prompt settings) hlife
  | complete turns settings =>
    exact Lifetime.session_alike .replies hlife (c.complete_alike on invoker turns settings)
  | openChat turns settings => exact Lifetime.opening_alike (c.openChat turns settings) hlife
  | embed texts => exact Lifetime.session_alike .vectors hlife (c.embed_alike on invoker texts)
  | generateImage description width height settings =>
    exact Lifetime.session_alike .image hlife
      (c.generateImage_alike on invoker description width height settings)
  | pull i => exact Lifetime.pulling_alike i hlife (c.next_alike on invoker)

/-- How uses of a client end, one after another, when something has happened before. -/
def outcomesFrom (c : Client capability) (invoker : Invoker) (life : Lifetime) :
    List (Use capability) → List (Except Fault Gain)
  | [] => []
  | use :: rest =>
    (c.perform invoker life use).1 :: c.outcomesFrom invoker (c.perform invoker life use).2 rest

def outcomes (c : Client capability) (invoker : Invoker) (uses : List (Use capability)) :
    List (Except Fault Gain) := c.outcomesFrom invoker .start uses

/-- A run of uses ends alike and makes the same calls, whether or not the client logs. -/
theorem run_alike (c : Client capability) (on : Bool) (invoker : Invoker)
    (uses : List (Use capability)) :
    (c.logging on).outcomes invoker uses = c.outcomes invoker uses ∧
      ((c.logging on).after invoker uses).journal.calls = (c.after invoker uses).journal.calls := by
  unfold outcomes after
  have hstart : Lifetime.start.Alike .start := ⟨rfl, rfl⟩
  -- After the first use the events of the two lifetimes may differ, but not what later uses read.
  suffices ∀ life life' : Lifetime, life.Alike life' →
      (c.logging on).outcomesFrom invoker life' uses = c.outcomesFrom invoker life uses ∧
        (uses.foldl (fun life use => ((c.logging on).perform invoker life use).2) life').journal.calls =
          (uses.foldl (fun life use => (c.perform invoker life use).2) life).journal.calls from
    this .start .start hstart
  intro life life' hlife
  induction uses generalizing life life' with
  | nil => exact ⟨rfl, hlife.calls.symm⟩
  | cons use rest ih =>
    obtain ⟨houtcome, hnext⟩ := c.perform_alike on invoker hlife use
    obtain ⟨houtcomes, hcalls⟩ := ih _ _ hnext
    refine ⟨?_, hcalls⟩
    rw [outcomesFrom, outcomesFrom, houtcomes, houtcome]

end Client
end ModelGateway
