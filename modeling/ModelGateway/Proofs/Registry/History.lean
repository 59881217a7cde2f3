import ModelGateway.Proofs.Registry.Buckets
import ModelGateway.Proofs.Run

/-!
# Histories of registrations

A history is any sequence of calls of `register`, accepted or refused, on the empty registry or on
the standard one. Every registry that a history leaves is sound, its listing shows each key once,
and what a further call can change is limited to the key of the route it accepts.
-/
namespace ModelGateway.Registry

/-- The registry that a call of `register` leaves, whether it is accepted or refused. -/
def afterCall (registry : Registry) (r : Route) : Registry := ((register r).run registry).2

def afterCalls (registry : Registry) (calls : List Route) : Registry := calls.foldl afterCall registry

/-- The registries that histories start from. -/
inductive Origin where
  | empty
  | standard
  deriving DecidableEq

namespace Origin

def registry : Origin → Registry
  | empty => .empty
  | standard => .standard

/-- The calls that make the registry out of the empty one. -/
def calls : Origin → List Route
  | empty => []
  | standard => standardRoutes

end Origin

/-- The route that is listed under a key. -/
def routeAt (registry : Registry) (provider familyPrefix : String) : Option Route :=
  (registry.bucket provider).find? fun r => r.familyPrefix == familyPrefix

/-! ## One call -/

variable {registry : Registry}

theorem listed_of_validate {r s : Route} (h : validate r = .ok s) : s.Listed := by
  unfold validate at h
  dsimp only at h
  split at h
  · cases h
  · rename_i hnames
    split at h
    · cases h
    · rename_i hprovider
      split at h
      · cases h
      · rename_i hbacked
        obtain rfl := Except.ok.inj h
        rw [not_or] at hnames
        refine ⟨hnames.1, ⟨_, rfl⟩, not_not.mp hprovider, hnames.2, ⟨_, rfl⟩, ?_⟩
        intro c hc
        have hnone := List.filter_eq_nil_iff.mp (not_not.mp hbacked) c hc
        simpa using hnone

/-- A call either lists the validated route or refuses it and changes nothing. -/
theorem register_cases (registry : Registry) (r : Route) :
    (∃ s, validate r = .ok s ∧ (register r).run registry = (.ok s, registry.insert s)) ∨
      ∃ why, validate r = .error why ∧
        (register r).run registry = (.error (.registration why), registry) := by
  unfold register
  cases hv : validate r with
  | ok s => exact .inl ⟨s, rfl, rfl⟩
  | error why => exact .inr ⟨why, rfl, rfl⟩

theorem afterCall_of_ok {r s : Route} (h : validate r = .ok s) :
    registry.afterCall r = registry.insert s := by
  simp only [afterCall, register, h]
  rfl

theorem afterCall_of_error {r : Route} {why : Registration} (h : validate r = .error why) :
    registry.afterCall r = registry := by
  simp only [afterCall, register, h]
  rfl

theorem afterCall_sound (h : Sound registry) (r : Route) : Sound (registry.afterCall r) := by
  cases hv : validate r with
  | ok s =>
    rw [afterCall_of_ok hv]
    exact insert_sound h (listed_of_validate hv)
  | error why =>
    rw [afterCall_of_error hv]
    exact h

/-! ## Histories -/

theorem afterCalls_cons (registry : Registry) (r : Route) (rest : List Route) :
    registry.afterCalls (r :: rest) = (registry.afterCall r).afterCalls rest := List.foldl_cons

theorem afterCalls_append (registry : Registry) (calls more : List Route) :
    registry.afterCalls (calls ++ more) = (registry.afterCalls calls).afterCalls more :=
  List.foldl_append

theorem afterCalls_sound (h : Sound registry) (calls : List Route) :
    Sound (registry.afterCalls calls) := by
  induction calls generalizing registry with
  | nil => exact h
  | cons r rest ih =>
    rw [afterCalls_cons]
    exact ih (afterCall_sound h r)

/-- Registering routes, none of which is refused, leaves what the calls one by one leave. -/
theorem afterCalls_of_registerAll {calls : List Route} {next : Registry}
    (h : (registerAll calls).run registry = (.ok (), next)) : registry.afterCalls calls = next := by
  induction calls generalizing registry with
  | nil =>
    have hnil : (registerAll []).run registry = (.ok (), registry) := rfl
    rw [hnil] at h
    exact congrArg Prod.snd h
  | cons r rest ih =>
    rcases register_cases registry r with ⟨s, hv, hrun⟩ | ⟨why, hv, hrun⟩
    · rw [registerAll, run_bind_of_ok hrun] at h
      rw [afterCalls_cons, afterCall_of_ok hv]
      exact ih h
    · rw [registerAll, run_bind_of_error hrun] at h
      have hfail : Except.error (GatewayError.registration why) = Except.ok () := congrArg Prod.fst h
      cases hfail

theorem Origin.registry_eq (origin : Origin) :
    origin.registry = Registry.empty.afterCalls origin.calls := by
  cases origin with
  | empty => rfl
  | standard => exact (afterCalls_of_registerAll registerAll_standardRoutes).symm

theorem Origin.afterCalls_eq (origin : Origin) (calls : List Route) :
    origin.registry.afterCalls calls = Registry.empty.afterCalls (origin.calls ++ calls) := by
  rw [origin.registry_eq, afterCalls_append]

theorem Origin.sound (origin : Origin) (calls : List Route) :
    Sound (origin.registry.afterCalls calls) := by
  rw [origin.afterCalls_eq]
  exact afterCalls_sound empty_sound _

/-! ## Entries -/

theorem routeAt_eq_some_iff (h : Sound registry) {p x : String} {r : Route} :
    registry.routeAt p x = some r ↔ r ∈ registry.bucket p ∧ r.familyPrefix = x := by
  constructor
  · intro hf
    exact ⟨List.mem_of_find?_eq_some hf, by simpa using List.find?_some hf⟩
  · rintro ⟨hr, hx⟩
    cases hf : registry.routeAt p x with
    | none =>
      have hnone := List.find?_eq_none.mp hf r hr
      simp [hx] at hnone
    | some s =>
      have hs := List.mem_of_find?_eq_some hf
      have hsx : s.familyPrefix = x := by simpa using List.find?_some hf
      rw [h.eq_of_familyPrefix_eq hs hr (hsx.trans hx.symm)]

/-- Inserting a route makes it the entry of its key and leaves every other entry alone. -/
theorem routeAt_insert (h : Sound registry) {r : Route} (hr : r.Listed) (p x : String) :
    (registry.insert r).routeAt p x = if (p, x) = r.key then some r else registry.routeAt p x := by
  have hnext := insert_sound h hr
  apply Option.ext
  intro s
  rw [routeAt_eq_some_iff hnext, mem_bucket_insert]
  by_cases hk : (p, x) = r.key
  · obtain ⟨rfl, rfl⟩ := Prod.mk.inj hk
    rw [if_pos hk]
    constructor
    · rintro ⟨⟨_, rfl⟩ | ⟨_, hne⟩, hx⟩
      · rfl
      · exact absurd ⟨rfl, hx⟩ hne
    · intro hs
      cases hs
      exact ⟨.inl ⟨rfl, rfl⟩, rfl⟩
  · rw [if_neg hk, routeAt_eq_some_iff h]
    constructor
    · rintro ⟨⟨rfl, rfl⟩ | ⟨hs, _⟩, rfl⟩
      · exact absurd rfl hk
      · exact ⟨hs, rfl⟩
    · rintro ⟨hs, rfl⟩
      refine ⟨.inr ⟨hs, ?_⟩, rfl⟩
      rintro ⟨rfl, hx⟩
      exact hk (by rw [hx]; rfl)

theorem of_register_error {r : Route} {e : GatewayError} {next : Registry}
    (hrun : (register r).run registry = (.error e, next)) :
    e.kind = .registration ∧ next = registry := by
  rcases register_cases registry r with ⟨s, _, hok⟩ | ⟨why, _, herror⟩
  · rw [hok] at hrun
    cases (Prod.mk.inj hrun).1
  · rw [herror] at hrun
    obtain ⟨hwhy, rfl⟩ := Prod.mk.inj hrun
    cases hwhy
    exact ⟨rfl, rfl⟩

/-- An accepted call makes its route the entry of the route's key and changes no other entry. -/
theorem of_register_ok (h : Sound registry) {r s : Route} {next : Registry}
    (hrun : (register r).run registry = (.ok s, next)) :
    next.routeAt s.provider s.familyPrefix = some s ∧
      ∀ p x, (p, x) ≠ s.key → next.routeAt p x = registry.routeAt p x := by
  rcases register_cases registry r with ⟨t, hv, hok⟩ | ⟨why, _, herror⟩
  · rw [hok] at hrun
    obtain ⟨ht, rfl⟩ := Prod.mk.inj hrun
    obtain rfl := Except.ok.inj ht
    have hentry := routeAt_insert h (listed_of_validate hv)
    refine ⟨(hentry _ _).trans (if_pos rfl), ?_⟩
    intro p x hne
    exact (hentry p x).trans (if_neg hne)
  · rw [herror] at hrun
    cases (Prod.mk.inj hrun).1

/-! ## The listing -/

theorem mem_providers (h : Sound registry) {p : String} :
    p ∈ registry.providers ↔ registry.bucket p ≠ [] := by
  unfold providers
  rw [List.mem_mergeSort]
  constructor
  · intro hp
    obtain ⟨⟨q, rs⟩, hb, rfl⟩ := List.mem_map.mp hp
    rw [bucket_eq_of_mem h.keys hb]
    exact (h.buckets _ hb).nonempty
  · intro hne
    exact List.mem_map_of_mem (bucket_mem_of_ne_nil hne)

theorem providers_sorted (registry : Registry) : registry.providers.Pairwise (· ≤ ·) := by
  have hsorted : registry.providers.Pairwise fun p q => (!decide (q < p)) = true := by
    apply List.pairwise_mergeSort
    · intro a b c hab hbc
      simp only [Bool.not_eq_true', decide_eq_false_iff_not, not_lt] at hab hbc ⊢
      exact hab.trans hbc
    · intro a b
      simp only [Bool.or_eq_true, Bool.not_eq_true', decide_eq_false_iff_not, not_lt]
      exact le_total a b
  refine hsorted.imp ?_
  intro a b hab
  simpa only [Bool.not_eq_true', decide_eq_false_iff_not, not_lt] using hab

theorem providers_nodup (h : Sound registry) : registry.providers.Nodup :=
  (List.mergeSort_perm _ _).nodup_iff.mpr h.keys

theorem mem_routes (h : Sound registry) {r : Route} :
    r ∈ registry.routes ↔ r ∈ registry.bucket r.provider := by
  unfold routes
  rw [List.mem_flatMap]
  constructor
  · rintro ⟨p, _, hr⟩
    rwa [(h.of_mem hr).2]
  · intro hr
    exact ⟨r.provider, (mem_providers h).mpr (List.ne_nil_of_mem hr), hr⟩

/-- The listing goes through the providers in ascending order. -/
theorem routes_sorted (h : Sound registry) : (registry.routes.map Route.provider).Pairwise (· ≤ ·) := by
  unfold routes
  rw [List.map_flatMap, List.pairwise_flatMap]
  have hprovider : ∀ p, ∀ q ∈ (registry.bucket p).map Route.provider, q = p := by
    intro p q hq
    obtain ⟨r, hr, rfl⟩ := List.mem_map.mp hq
    exact (h.of_mem hr).2
  constructor
  · intro p _
    refine List.pairwise_of_forall_mem_list ?_
    intro q hq q' hq'
    rw [hprovider p q hq, hprovider p q' hq']
  · refine (providers_sorted registry).imp ?_
    intro p p' hle q hq q' hq'
    rw [hprovider p q hq, hprovider p' q' hq']
    exact hle

theorem routes_keys_nodup (h : Sound registry) : (registry.routes.map Route.key).Nodup := by
  unfold routes
  rw [List.map_flatMap, List.nodup_flatMap]
  constructor
  · intro p _
    refine List.Nodup.of_map Prod.snd ?_
    rw [List.map_map]
    exact h.distinct p
  · refine (providers_nodup h).imp ?_
    intro p p' hne k hk hk'
    obtain ⟨r, hr, rfl⟩ := List.mem_map.mp hk
    obtain ⟨r', hr', heq⟩ := List.mem_map.mp hk'
    apply hne
    rw [← (h.of_mem hr).2, ← (h.of_mem hr').2]
    exact (congrArg Prod.fst heq).symm

/-- The listing shows a key once if it has an entry, and otherwise not at all. -/
theorem count_routes_keys (h : Sound registry) (p x : String) :
    (registry.routes.map Route.key).count (p, x) = if (registry.routeAt p x).isSome then 1 else 0 := by
  rw [(routes_keys_nodup h).count]
  have hiff : (p, x) ∈ registry.routes.map Route.key ↔ (registry.routeAt p x).isSome = true := by
    rw [Option.isSome_iff_exists]
    constructor
    · intro hmem
      obtain ⟨r, hr, hk⟩ := List.mem_map.mp hmem
      obtain ⟨rfl, rfl⟩ := Prod.mk.inj hk
      exact ⟨r, (routeAt_eq_some_iff h).mpr ⟨(mem_routes h).mp hr, rfl⟩⟩
    · rintro ⟨r, hr⟩
      obtain ⟨hmem, rfl⟩ := (routeAt_eq_some_iff h).mp hr
      obtain rfl := (h.of_mem hmem).2
      exact List.mem_map_of_mem ((mem_routes h).mpr hmem)
  simp only [hiff]

/-- Along every history the registry is sound, its listing shows each entry once and the providers
in ascending order, a refused call changes nothing, and an accepted one changes a single entry. -/
theorem history_keeps_registry_sound (origin : Origin) (calls : List Route) :
    let registry := origin.registry.afterCalls calls
    registry.Sound ∧
      (∀ p x, (registry.routes.map Route.key).count (p, x) =
        if (registry.routeAt p x).isSome then 1 else 0) ∧
      (registry.routes.map Route.provider).Pairwise (· ≤ ·) ∧
      ∀ (r : Route) (next : Registry),
        (∀ e, (register r).run registry = (.error e, next) →
          e.kind = .registration ∧ next = registry) ∧
        ∀ s, (register r).run registry = (.ok s, next) →
          next.routeAt s.provider s.familyPrefix = some s ∧
            ∀ p x, (p, x) ≠ s.key → next.routeAt p x = registry.routeAt p x := by
  intro registry
  have h : Sound registry := origin.sound calls
  refine ⟨h, count_routes_keys h, routes_sorted h, ?_⟩
  intro r next
  constructor
  · intro e he
    exact of_register_error he
  · intro s hs
    exact of_register_ok h hs

end ModelGateway.Registry
