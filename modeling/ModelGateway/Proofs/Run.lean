/-!
# Actions that may fail and keep a state

Registrations and sessions are actions over a state that survives a failure. A sequence of two of
them runs the second on the state of the first, unless the first fails.
-/
namespace ModelGateway

variable {ε σ α β : Type}

theorem run_bind (action : ExceptT ε (StateM σ) α) (next : α → ExceptT ε (StateM σ) β) (s : σ) :
    (action >>= next).run s =
      match action.run s with
      | (.ok a, s') => (next a).run s'
      | (.error e, s') => (.error e, s') := by
  change (match action.run s with
    | (outcome, s') => (ExceptT.bindCont next outcome : StateM σ (Except ε β)) s') = _
  rcases action.run s with ⟨_ | _, _⟩
  · rfl
  · rfl

theorem run_bind_of_ok {action : ExceptT ε (StateM σ) α} {next : α → ExceptT ε (StateM σ) β}
    {s s' : σ} {a : α} (h : action.run s = (.ok a, s')) :
    (action >>= next).run s = (next a).run s' := by
  rw [run_bind, h]

theorem run_bind_of_error {action : ExceptT ε (StateM σ) α} {next : α → ExceptT ε (StateM σ) β}
    {s s' : σ} {e : ε} (h : action.run s = (.error e, s')) :
    (action >>= next).run s = (.error e, s') := by
  rw [run_bind, h]

/-- A sequence of two actions that succeeds succeeds in both. -/
theorem ok_of_run_bind {action : ExceptT ε (StateM σ) α} {next : α → ExceptT ε (StateM σ) β}
    {s s' : σ} {b : β} (h : (action >>= next).run s = (.ok b, s')) :
    ∃ a t, action.run s = (.ok a, t) ∧ (next a).run t = (.ok b, s') := by
  rw [run_bind] at h
  rcases hrun : action.run s with ⟨e | a, t⟩
  · rw [hrun] at h
    cases (Prod.mk.inj h).1
  · rw [hrun] at h
    exact ⟨a, t, rfl, h⟩

theorem run_map (f : α → β) (action : ExceptT ε (StateM σ) α) (s : σ) :
    (f <$> action).run s = ((action.run s).1.map f, (action.run s).2) := by
  rw [← bind_pure_comp, run_bind]
  rcases action.run s with ⟨_ | _, _⟩
  · rfl
  · rfl

/-- What is done with the outcome of an action starts from the state that the action leaves. -/
theorem run_outcome_bind (action : ExceptT ε (StateM σ) α) (next : Except ε α → StateM σ β) (s : σ) :
    (action.run >>= next).run s = (next (action.run s).1).run (action.run s).2 := rfl

/-- A sequence of two steps that succeeds succeeds in both. -/
theorem ok_of_bind_eq_ok {first : Except ε α} {next : α → Except ε β} {b : β}
    (h : first >>= next = .ok b) : ∃ a, first = .ok a ∧ next a = .ok b := by
  cases first with
  | error e => cases h
  | ok a => exact ⟨a, rfl, h⟩

/-- What an action makes of the items of a list, it makes of one of them. -/
theorem exists_of_mem_mapM {action : α → Except ε β} {items : List α} {made : List β}
    (h : items.mapM action = .ok made) {b : β} (hb : b ∈ made) : ∃ a ∈ items, action a = .ok b := by
  induction items generalizing made with
  | nil =>
    obtain rfl := Except.ok.inj h
    cases hb
  | cons a rest ih =>
    rw [List.mapM_cons] at h
    obtain ⟨first, hfirst, h⟩ := ok_of_bind_eq_ok h
    obtain ⟨others, hothers, h⟩ := ok_of_bind_eq_ok h
    obtain rfl := Except.ok.inj h
    rcases List.mem_cons.mp hb with rfl | hb
    · exact ⟨a, List.mem_cons_self, hfirst⟩
    · obtain ⟨a', ha', hmade⟩ := ih hothers hb
      exact ⟨a', List.mem_cons_of_mem _ ha', hmade⟩

end ModelGateway
