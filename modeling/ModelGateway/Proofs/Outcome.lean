/-!
# How outcomes fail

`FailsFor` says exactly with what an outcome fails, if it does; `FailsOnly` says something of every
error that it can fail with. Both pass from the steps of a computation to the whole.
-/
namespace ModelGateway

/-- An outcome that is the given failure, or some result where no failure is given. -/
def FailsFor {ε α : Type} (outcome : Except ε α) : Option ε → Prop
  | some e => outcome = .error e
  | none => ∃ a, outcome = .ok a

namespace FailsFor

variable {ε α β : Type} {outcome : Except ε α} {why : Option ε}

theorem ok (a : α) : FailsFor (.ok a : Except ε α) none := ⟨a, rfl⟩

theorem bind {next : α → Except ε β} (h : FailsFor outcome why)
    (hnext : ∀ a, FailsFor (next a) none) : FailsFor (outcome >>= next) why := by
  cases why with
  | some e =>
    obtain rfl : outcome = .error e := h
    rfl
  | none =>
    obtain ⟨a, rfl⟩ := h
    exact hnext a

/-- Of two steps the second fails only where the first did not. -/
theorem bind_or {next : α → Except ε β} {why' : Option ε} (h : FailsFor outcome why)
    (hnext : ∀ a, outcome = .ok a → FailsFor (next a) why') :
    FailsFor (outcome >>= next) (why.or why') := by
  cases why with
  | some e =>
    obtain rfl : outcome = .error e := h
    rfl
  | none =>
    obtain ⟨a, rfl⟩ := h
    exact hnext a rfl

theorem map {f : α → β} (h : FailsFor outcome why) : FailsFor (outcome.map f) why := by
  cases why with
  | some e =>
    obtain rfl : outcome = .error e := h
    rfl
  | none =>
    obtain ⟨a, rfl⟩ := h
    exact ok (f a)

/-- Going through a list fails for the first item that an action fails for. -/
theorem mapM {action : α → Except ε β} {fault? : α → Option ε}
    (h : ∀ a, FailsFor (action a) (fault? a)) (items : List α) :
    FailsFor (items.mapM action) (items.findSome? fault?) := by
  induction items with
  | nil => exact ok []
  | cons a rest ih =>
    have ha := h a
    rw [List.mapM_cons, List.findSome?_cons]
    cases hf : fault? a with
    | some e =>
      rw [hf] at ha
      rw [show action a = .error e from ha]
      rfl
    | none =>
      rw [hf] at ha
      obtain ⟨b, hb⟩ := ha
      rw [hb]
      exact ih.bind fun bs => ok (b :: bs)

end FailsFor

section
variable {ε ε' α β : Type}

/-- That an outcome fails only with errors of which something is true. -/
def FailsOnly (p : ε → Prop) (outcome : Except ε α) : Prop := ∀ e, outcome = .error e → p e

namespace FailsOnly

variable {p : ε → Prop} {outcome : Except ε α}

theorem ok (a : α) : FailsOnly p (.ok a : Except ε α) := nofun

theorem error {e : ε} (h : p e) : FailsOnly p (.error e : Except ε α) := by
  rintro _ ⟨⟩
  exact h

theorem mono {q : ε → Prop} (h : FailsOnly p outcome) (hq : ∀ e, p e → q e) :
    FailsOnly q outcome := fun e he => hq e (h e he)

theorem bind {next : α → Except ε β} (h : FailsOnly p outcome) (hnext : ∀ a, FailsOnly p (next a)) :
    FailsOnly p (outcome >>= next) := by
  cases outcome with
  | error e => exact error (h e rfl)
  | ok a => exact hnext a

theorem map (f : α → β) (h : FailsOnly p outcome) : FailsOnly p (outcome.map f) := by
  cases outcome with
  | error e => exact error (h e rfl)
  | ok a => exact ok (f a)

theorem mapError {p' : ε' → Prop} {f : ε → ε'} (h : FailsOnly p outcome) (hf : ∀ e, p e → p' (f e)) :
    FailsOnly p' (outcome.mapError f) := by
  cases outcome with
  | error e => exact error (hf e (h e rfl))
  | ok a => exact ok a

end FailsOnly

end

end ModelGateway
