import ModelGateway.Proofs.Json.RoundTrip
import ModelGateway.Proofs.Run

/-!
# What is read as JSON is plain

Reading makes no tuples and no chat messages, and of several members with one key it keeps one. So
whatever is read can be written and read back.
-/
namespace ModelGateway

namespace Object

theorem mem_keys_put {o : Object} {key k : String} {v : Value} :
    k ∈ (put o key v).map Prod.fst ↔ k = key ∨ k ∈ o.map Prod.fst := by
  induction o with
  | nil => simp [put]
  | cons m rest ih =>
    obtain ⟨name, w⟩ := m
    by_cases hname : name = key
    · simp [put, hname]
    · rw [put, if_neg hname, List.map_cons, List.mem_cons, ih, List.map_cons, List.mem_cons]
      exact or_left_comm

theorem put_keys_nodup {o : Object} (h : (o.map Prod.fst).Nodup) (key : String) (v : Value) :
    ((put o key v).map Prod.fst).Nodup := by
  induction o with
  | nil => exact List.nodup_cons.mpr ⟨List.not_mem_nil, .nil⟩
  | cons m rest ih =>
    obtain ⟨name, w⟩ := m
    obtain ⟨hfresh, hrest⟩ := List.nodup_cons.mp h
    by_cases hname : name = key
    · rw [put, if_pos hname]
      exact h
    · rw [put, if_neg hname]
      refine List.nodup_cons.mpr ⟨?_, ih hrest⟩
      rw [mem_keys_put]
      exact not_or.mpr ⟨hname, hfresh⟩

theorem mem_put {o : Object} {key : String} {v : Value} {m : String × Value}
    (h : m ∈ put o key v) : m = (key, v) ∨ m ∈ o := by
  induction o with
  | nil => exact .inl (List.mem_singleton.mp h)
  | cons first rest ih =>
    obtain ⟨name, w⟩ := first
    rw [put] at h
    split at h
    · rename_i hname
      rcases List.mem_cons.mp h with rfl | h
      · exact .inl (Prod.ext hname rfl)
      · exact .inr (List.mem_cons_of_mem _ h)
    · rcases List.mem_cons.mp h with rfl | h
      · exact .inr List.mem_cons_self
      · exact (ih h).imp_right (List.mem_cons_of_mem _)

theorem putAll_keys_nodup {o : Object} (h : (o.map Prod.fst).Nodup) (other : Object) :
    ((putAll o other).map Prod.fst).Nodup := by
  induction other generalizing o with
  | nil => exact h
  | cons m rest ih => exact ih (put_keys_nodup h m.1 m.2)

theorem mem_putAll {o other : Object} {m : String × Value} (h : m ∈ putAll o other) :
    m ∈ o ∨ m ∈ other := by
  induction other generalizing o with
  | nil => exact .inl h
  | cons first rest ih =>
    rcases ih h with hput | hrest
    · exact (mem_put hput).elim (fun heq => .inr (heq ▸ List.mem_cons_self)) .inl
    · exact .inr (List.mem_cons_of_mem _ hrest)

end Object

namespace Json

theorem arePlainItems_iff (items : List Value) :
    arePlainItems items = true ↔ ∀ v ∈ items, isPlain v = true := by
  induction items with
  | nil => simp [arePlainItems]
  | cons v vs ih => rw [arePlainItems, Bool.and_eq_true, ih, List.forall_mem_cons]

theorem arePlainMembers_iff (o : Object) :
    arePlainMembers o = true ↔ ∀ m ∈ o, isPlain m.2 = true := by
  induction o with
  | nil => simp [arePlainMembers]
  | cons m rest ih => rw [arePlainMembers, Bool.and_eq_true, ih, List.forall_mem_cons]

theorem isPlain_object_iff (o : Object) :
    isPlain (.object o) = true ↔ (o.map Prod.fst).Nodup ∧ ∀ m ∈ o, isPlain m.2 = true := by
  rw [isPlain, Bool.and_eq_true, decide_eq_true_iff, arePlainMembers_iff]

theorem isPlain_ofMembers {members : List (String × Value)}
    (h : ∀ m ∈ members, isPlain m.2 = true) : isPlain (.object (Object.ofMembers members)) = true := by
  refine (isPlain_object_iff _).mpr ⟨Object.putAll_keys_nodup (o := []) List.nodup_nil members, ?_⟩
  intro m hm
  exact h m ((Object.mem_putAll hm).resolve_left List.not_mem_nil)

theorem isPlain_of_readWord? {cs rest : List Char} {v : Value} (h : readWord? cs = some (v, rest)) :
    isPlain v = true := by
  obtain ⟨⟨word, w⟩, hmem, hword⟩ := List.exists_of_findSome?_eq_some h
  obtain ⟨_, _, heq⟩ := Option.map_eq_some_iff.mp hword
  obtain rfl := (Prod.mk.inj heq).1
  have hall : ∀ m ∈ words, isPlain m.2 = true := by decide
  exact hall _ hmem

theorem isPlain_of_readNumber {cs rest : List Char} {v : Value}
    (h : readNumber cs = .ok (v, rest)) : isPlain v = true := by
  unfold readNumber at h
  dsimp only at h
  -- With and without a sign the same three cases follow.
  split at h
  all_goals
    split at h
    · cases h
    · split at h
      · rw [← (Prod.mk.inj (Except.ok.inj h)).1]
        rfl
      · rw [← (Prod.mk.inj (Except.ok.inj h)).1]
        rfl

/-- What the readers read with some fuel is plain. -/
structure ReadsPlain (fuel : Nat) : Prop where
  value : ∀ cs v rest, readValue fuel cs = .ok (v, rest) → isPlain v = true
  members : ∀ cs members rest, readMembers fuel cs = .ok (members, rest) →
    ∀ m ∈ members, isPlain m.2 = true
  items : ∀ cs items rest, readItems fuel cs = .ok (items, rest) → ∀ v ∈ items, isPlain v = true

theorem readsPlain_succ {fuel : Nat} (h : ReadsPlain fuel) : ReadsPlain (fuel + 1) where
  value cs v rest hread := by
    rw [readValue.eq_def] at hread
    dsimp only at hread
    split at hread
    · obtain ⟨⟨s, after⟩, _, hread⟩ := ok_of_bind_eq_ok hread
      rw [← (Prod.mk.inj (Except.ok.inj hread)).1]
      rfl
    · split at hread
      · rw [← (Prod.mk.inj (Except.ok.inj hread)).1]
        rfl
      · obtain ⟨⟨members, after⟩, hmembers, hread⟩ := ok_of_bind_eq_ok hread
        rw [← (Prod.mk.inj (Except.ok.inj hread)).1]
        exact isPlain_ofMembers (h.members _ _ _ hmembers)
    · split at hread
      · rw [← (Prod.mk.inj (Except.ok.inj hread)).1]
        rfl
      · obtain ⟨⟨items, after⟩, hitems, hread⟩ := ok_of_bind_eq_ok hread
        rw [← (Prod.mk.inj (Except.ok.inj hread)).1, isPlain, arePlainItems_iff]
        exact h.items _ _ _ hitems
    · split at hread
      · rename_i hword
        obtain rfl := Except.ok.inj hread
        exact isPlain_of_readWord? hword
      · exact isPlain_of_readNumber hread
  members cs members rest hread := by
    rw [readMembers.eq_def] at hread
    dsimp only at hread
    split at hread
    · obtain ⟨⟨key, after⟩, _, hread⟩ := ok_of_bind_eq_ok hread
      dsimp only at hread
      split at hread
      · obtain ⟨⟨v, after⟩, hv, hread⟩ := ok_of_bind_eq_ok hread
        have hplain := h.value _ _ _ hv
        dsimp only at hread
        split at hread
        · rw [← (Prod.mk.inj (Except.ok.inj hread)).1]
          exact List.forall_mem_singleton.mpr hplain
        · obtain ⟨⟨others, after⟩, hothers, hread⟩ := ok_of_bind_eq_ok hread
          rw [← (Prod.mk.inj (Except.ok.inj hread)).1]
          exact List.forall_mem_cons.mpr ⟨hplain, h.members _ _ _ hothers⟩
        · cases hread
      · cases hread
    · cases hread
  items cs items rest hread := by
    rw [readItems] at hread
    obtain ⟨⟨v, after⟩, hv, hread⟩ := ok_of_bind_eq_ok hread
    have hplain := h.value _ _ _ hv
    dsimp only at hread
    split at hread
    · rw [← (Prod.mk.inj (Except.ok.inj hread)).1]
      exact List.forall_mem_singleton.mpr hplain
    · obtain ⟨⟨others, after⟩, hothers, hread⟩ := ok_of_bind_eq_ok hread
      rw [← (Prod.mk.inj (Except.ok.inj hread)).1]
      exact List.forall_mem_cons.mpr ⟨hplain, h.items _ _ _ hothers⟩
    · cases hread

theorem readsPlain (fuel : Nat) : ReadsPlain fuel := by
  induction fuel with
  | zero => exact ⟨nofun, nofun, nofun⟩
  | succ fuel ih => exact readsPlain_succ ih

theorem isPlain_of_parse {s : String} {v : Value} (h : parse s = .ok v) : isPlain v = true := by
  unfold parse at h
  cases hread : readDocument s.toList with
  | error halt =>
    rw [hread] at h
    cases h
  | ok w =>
    rw [hread] at h
    obtain rfl := Except.ok.inj h
    unfold readDocument at hread
    split at hread
    · cases hread
    · obtain ⟨⟨v, after⟩, hv, hread⟩ := ok_of_bind_eq_ok hread
      dsimp only at hread
      split at hread
      · obtain rfl := Except.ok.inj hread
        exact (readsPlain _).value _ _ _ hv
      · cases hread

end Json
end ModelGateway
