import ModelGateway.Proofs.Registry.History

/-!
# The longest registered prefix decides

A history leaves a table: each provider and prefix with the route of the last accepted call for it.
A look-up depends on the history through this table only, and it finds the entry with the longest
prefix of the model's family, whatever the order of the calls was.
-/
namespace ModelGateway.Registry

abbrev Table := String → String → Option Route

/-- The routes that a history accepts, as they are listed. -/
def accepted (calls : List Route) : List Route := calls.filterMap fun r => (validate r).toOption

/-- The route of the last accepted call for a provider and a prefix. -/
def lastAccepted (calls : List Route) : Table := fun provider familyPrefix =>
  (accepted calls).reverse.find? fun r => r.key == (provider, familyPrefix)

/-- Whether a table has an entry for a prefix of a model's family. -/
def Serves (table : Table) (id : ModelId) (x : String) : Prop :=
  (table id.provider x).isSome ∧ x.toList <+: id.family.toList

/-- Whether a prefix is the longest that serves a model. -/
def Longest (table : Table) (id : ModelId) (x : String) : Prop :=
  Serves table id x ∧ ∀ y, Serves table id y → y.length ≤ x.length

/-! ## The table of a history -/

variable {registry : Registry}

theorem lastAccepted_cons_of_ok {r s : Route} (h : validate r = .ok s) (rest : List Route)
    (p x : String) :
    lastAccepted (r :: rest) p x =
      (lastAccepted rest p x).or (if (p, x) = s.key then some s else none) := by
  have hacc : accepted (r :: rest) = s :: accepted rest := by
    simp [accepted, h, Except.toOption]
  have hlast : [s].find? (fun r => r.key == (p, x)) = if (p, x) = s.key then some s else none := by
    by_cases hk : (p, x) = s.key
    · simp [hk]
    · simp [hk, beq_false_of_ne (Ne.symm hk)]
  unfold lastAccepted
  rw [hacc, List.reverse_cons, List.find?_append, hlast]

theorem lastAccepted_cons_of_error {r : Route} {why : Registration} (h : validate r = .error why)
    (rest : List Route) : lastAccepted (r :: rest) = lastAccepted rest := by
  have hacc : accepted (r :: rest) = accepted rest := by
    simp [accepted, h, Except.toOption]
  unfold lastAccepted
  rw [hacc]

/-- The entries after a history are those of its table, over the entries before it. -/
theorem routeAt_afterCalls (h : Sound registry) (calls : List Route) (p x : String) :
    (registry.afterCalls calls).routeAt p x = (lastAccepted calls p x).or (registry.routeAt p x) := by
  induction calls generalizing registry with
  | nil => rfl
  | cons r rest ih =>
    rw [afterCalls_cons, ih (afterCall_sound h r)]
    cases hv : validate r with
    | ok s =>
      rw [afterCall_of_ok hv, lastAccepted_cons_of_ok hv, routeAt_insert h (listed_of_validate hv),
        Option.or_assoc]
      by_cases hk : (p, x) = s.key
      · rw [if_pos hk, if_pos hk, Option.some_or]
      · rw [if_neg hk, if_neg hk, Option.none_or]
    | error why => rw [afterCall_of_error hv, lastAccepted_cons_of_error hv]

theorem Origin.routeAt_afterCalls (origin : Origin) (calls : List Route) :
    (origin.registry.afterCalls calls).routeAt = lastAccepted (origin.calls ++ calls) := by
  funext p x
  rw [origin.afterCalls_eq, Registry.routeAt_afterCalls empty_sound]
  exact Option.or_none

/-! ## The first match is the longest -/

/-- Where longer prefixes come first, no later match has a longer prefix than the first. -/
theorem length_le_of_find? {p : Route → Bool} {routes : List Route} {s : Route}
    (h : LongerFirst routes) (hs : routes.find? p = some s) :
    ∀ t ∈ routes, p t = true → t.familyPrefix.length ≤ s.familyPrefix.length := by
  induction routes with
  | nil => cases hs
  | cons r rest ih =>
    obtain ⟨hr, hrest⟩ := List.pairwise_cons.mp h
    intro t ht hpt
    rw [List.find?_cons] at hs
    split at hs
    · obtain rfl := Option.some.inj hs
      rcases List.mem_cons.mp ht with rfl | ht
      · exact Nat.le_refl _
      · exact hr t ht
    · rename_i hpr
      rcases List.mem_cons.mp ht with rfl | ht
      · exact absurd hpt (Bool.eq_false_iff.mp hpr)
      · exact ih hrest hs t ht hpt

theorem serves_iff {r : Route} {family : String} :
    r.serves family = true ↔ r.familyPrefix.toList <+: family.toList := List.isPrefixOf_iff_prefix

theorem serves_routeAt (h : Sound registry) {id : ModelId} {x : String} :
    Serves registry.routeAt id x ↔
      ∃ r ∈ registry.bucket id.provider, r.familyPrefix = x ∧ r.serves id.family = true := by
  unfold Serves
  rw [Option.isSome_iff_exists]
  constructor
  · rintro ⟨⟨r, hr⟩, hx⟩
    obtain ⟨hmem, rfl⟩ := (routeAt_eq_some_iff h).mp hr
    exact ⟨r, hmem, rfl, serves_iff.mpr hx⟩
  · rintro ⟨r, hmem, rfl, hr⟩
    exact ⟨⟨r, (routeAt_eq_some_iff h).mpr ⟨hmem, rfl⟩⟩, serves_iff.mp hr⟩

/-- Two longest prefixes of one family are one prefix. -/
theorem Longest.unique {table : Table} {id : ModelId} {x y : String} (hx : Longest table id x)
    (hy : Longest table id y) : x = y := by
  have hxy : x.toList.length = y.toList.length := by
    have hle := hy.2 x hx.1
    have hge := hx.2 y hy.1
    simp only [String.length_toList]
    omega
  have hpre := List.prefix_of_prefix_length_le hx.1.2 hy.1.2 hxy.le
  exact String.toList_injective (hpre.eq_of_length hxy)

/-- The first route that serves a model has the longest prefix. -/
theorem longest_of_find? (h : Sound registry) {id : ModelId} {s : Route}
    (hs : (registry.bucket id.provider).find? (fun r => r.serves id.family) = some s) :
    registry.routeAt id.provider s.familyPrefix = some s ∧
      Longest registry.routeAt id s.familyPrefix := by
  have hmem := List.mem_of_find?_eq_some hs
  have hserves : s.serves id.family = true := by simpa using List.find?_some hs
  refine ⟨(routeAt_eq_some_iff h).mpr ⟨hmem, rfl⟩, (serves_routeAt h).mpr ⟨s, hmem, rfl, hserves⟩, ?_⟩
  intro y hy
  obtain ⟨t, ht, rfl, htserves⟩ := (serves_routeAt h).mp hy
  exact length_le_of_find? (h.longerFirst id.provider) hs t ht htserves

theorem find?_eq_none_iff (h : Sound registry) {id : ModelId} :
    (registry.bucket id.provider).find? (fun r => r.serves id.family) = none ↔
      ¬∃ x, Serves registry.routeAt id x := by
  rw [List.find?_eq_none]
  constructor
  · rintro hnone ⟨x, hx⟩
    obtain ⟨r, hr, _, hserves⟩ := (serves_routeAt h).mp hx
    exact hnone r hr hserves
  · intro hno r hr hserves
    exact hno ⟨r.familyPrefix, (serves_routeAt h).mpr ⟨r, hr, rfl, hserves⟩⟩

/-! ## Look-ups -/

theorem lookup_of_find? {id : ModelId} {s : Route}
    (hs : (registry.bucket id.provider).find? (fun r => r.serves id.family) = some s) :
    registry.lookup id = .ok { s with modelId := some id } := by
  unfold lookup
  split
  · rename_i hnil
    rw [hnil] at hs
    cases hs
  · rw [hs]

/-- Without a route that serves the model, a look-up says whether the provider is known. -/
theorem lookup_of_find?_eq_none {id : ModelId}
    (hs : (registry.bucket id.provider).find? (fun r => r.serves id.family) = none) :
    registry.lookup id = .error (.unsupportedModel id.raw (some
      (if registry.bucket id.provider = [] then s!"unknown provider '{id.provider}'"
        else s!"unknown {id.provider} model family '{id.family}'"))) := by
  unfold lookup
  split
  · rename_i hnil
    rw [if_pos hnil]
  · rename_i hne
    rw [hs, if_neg hne]

theorem bucket_eq_nil_iff (h : Sound registry) {p : String} :
    registry.bucket p = [] ↔ ∀ x, registry.routeAt p x = none := by
  constructor
  · intro hnil x
    unfold routeAt
    rw [hnil]
    rfl
  · intro hnone
    by_contra hne
    obtain ⟨r, hr⟩ := List.exists_mem_of_ne_nil _ hne
    have hentry := (routeAt_eq_some_iff h).mpr ⟨hr, rfl⟩
    rw [hnone] at hentry
    cases hentry

/-- Registries with the same entries find the same routes and give the same refusals. -/
theorem lookup_congr {registry' : Registry} (h : Sound registry) (h' : Sound registry')
    (heq : registry.routeAt = registry'.routeAt) (id : ModelId) :
    registry.lookup id = registry'.lookup id := by
  cases hs : (registry.bucket id.provider).find? fun r => r.serves id.family with
  | some s =>
    obtain ⟨hentry, hlong⟩ := longest_of_find? h hs
    cases hs' : (registry'.bucket id.provider).find? fun r => r.serves id.family with
    | some s' =>
      obtain ⟨hentry', hlong'⟩ := longest_of_find? h' hs'
      rw [heq] at hlong hentry
      rw [hlong.unique hlong', hentry'] at hentry
      rw [lookup_of_find? hs, lookup_of_find? hs', Option.some.inj hentry]
    | none =>
      rw [find?_eq_none_iff h', ← heq] at hs'
      exact absurd ⟨_, hlong.1⟩ hs'
  | none =>
    have hs' : (registry'.bucket id.provider).find? (fun r => r.serves id.family) = none := by
      rw [find?_eq_none_iff h', ← heq]
      exact (find?_eq_none_iff h).mp hs
    have hnil : registry.bucket id.provider = [] ↔ registry'.bucket id.provider = [] := by
      rw [bucket_eq_nil_iff h, bucket_eq_nil_iff h', heq]
    rw [lookup_of_find?_eq_none hs, lookup_of_find?_eq_none hs']
    simp only [hnil]

theorem kind_of_ofValue_error {given : Value} {e : GatewayError}
    (h : ModelId.ofValue given = .error e) : e.kind = .unsupportedModel := by
  unfold ModelId.ofValue ModelId.parse at h
  dsimp only at h
  split at h
  · obtain rfl := Except.error.inj h
    rfl
  · split at h
    · obtain rfl := Except.error.inj h
      rfl
    · cases h

theorem find_of_ofValue_ok {given : Value} {id : ModelId} (h : ModelId.ofValue given = .ok id) :
    registry.find given = registry.lookup id := by
  unfold find
  rw [h]
  rfl

theorem find_of_ofValue_error {given : Value} {e : GatewayError}
    (h : ModelId.ofValue given = .error e) : registry.find given = .error e := by
  unfold find
  rw [h]
  rfl

/-- A model that some prefix serves is found under the longest of them. -/
theorem find_of_serves (h : Sound registry) {given : Value} {id : ModelId}
    (hid : ModelId.ofValue given = .ok id) (hserved : ∃ x, Serves registry.routeAt id x) :
    ∃ x r, Longest registry.routeAt id x ∧ registry.routeAt id.provider x = some r ∧
      registry.find given = .ok { r with modelId := some id } := by
  rw [find_of_ofValue_ok hid]
  cases hs : (registry.bucket id.provider).find? fun r => r.serves id.family with
  | some s =>
    obtain ⟨hentry, hlong⟩ := longest_of_find? h hs
    exact ⟨s.familyPrefix, s, hlong, hentry, lookup_of_find? hs⟩
  | none => exact absurd hserved ((find?_eq_none_iff h).mp hs)

theorem find_of_not_serves (h : Sound registry) {given : Value} {id : ModelId}
    (hid : ModelId.ofValue given = .ok id) (hno : ¬∃ x, Serves registry.routeAt id x) :
    ∃ e, registry.find given = .error e ∧ e.kind = .unsupportedModel := by
  rw [find_of_ofValue_ok hid]
  exact ⟨_, lookup_of_find?_eq_none ((find?_eq_none_iff h).mpr hno), rfl⟩

theorem kind_of_find_error {given : Value} {e : GatewayError} (h : registry.find given = .error e) :
    e.kind = .unsupportedModel := by
  cases hid : ModelId.ofValue given with
  | error why =>
    rw [find_of_ofValue_error hid] at h
    rw [← Except.error.inj h]
    exact kind_of_ofValue_error hid
  | ok id =>
    rw [find_of_ofValue_ok hid] at h
    cases hs : (registry.bucket id.provider).find? fun r => r.serves id.family with
    | some s =>
      rw [lookup_of_find? hs] at h
      cases h
    | none =>
      rw [lookup_of_find?_eq_none hs] at h
      rw [← Except.error.inj h]
      rfl

/-- A look-up fails in one way, for want of a model id or of a prefix that serves the model. -/
theorem of_find_error (h : Sound registry) {given : Value} {e : GatewayError}
    (he : registry.find given = .error e) :
    e.kind = .unsupportedModel ∧ ((∃ e, ModelId.ofValue given = .error e) ∨
      ∃ id, ModelId.ofValue given = .ok id ∧ ¬∃ x, Serves registry.routeAt id x) := by
  cases hid : ModelId.ofValue given with
  | error why =>
    rw [find_of_ofValue_error hid] at he
    obtain rfl := Except.error.inj he
    exact ⟨kind_of_ofValue_error hid, .inl ⟨why, rfl⟩⟩
  | ok id =>
    by_cases hserved : ∃ x, Serves registry.routeAt id x
    · obtain ⟨x, r, _, _, hfind⟩ := find_of_serves h hid hserved
      rw [hfind] at he
      cases he
    · obtain ⟨why, hfind, hkind⟩ := find_of_not_serves h hid hserved
      obtain rfl := Except.error.inj (hfind.symm.trans he)
      exact ⟨hkind, .inr ⟨id, rfl, hserved⟩⟩

theorem find_error_iff (h : Sound registry) (given : Value) :
    (∃ e, registry.find given = .error e ∧ e.kind = .unsupportedModel) ↔
      (∃ e, ModelId.ofValue given = .error e) ∨
        ∃ id, ModelId.ofValue given = .ok id ∧ ¬∃ x, Serves registry.routeAt id x := by
  constructor
  · rintro ⟨e, he, _⟩
    exact (of_find_error h he).2
  · rintro (⟨e, hid⟩ | ⟨id, hid, hno⟩)
    · exact ⟨e, find_of_ofValue_error hid, kind_of_ofValue_error hid⟩
    · exact find_of_not_serves h hid hno

theorem find_congr {registry' : Registry} (h : Sound registry) (h' : Sound registry')
    (heq : registry.routeAt = registry'.routeAt) (given : Value) :
    registry.find given = registry'.find given := by
  cases hid : ModelId.ofValue given with
  | error e => rw [find_of_ofValue_error hid, find_of_ofValue_error hid]
  | ok id =>
    rw [find_of_ofValue_ok hid, find_of_ofValue_ok hid]
    exact lookup_congr h h' heq id

theorem mem_bucket_of_inserts {routes : List Route} {p : String} {s : Route}
    (h : s ∈ (routes.foldl insert registry).bucket p) : s ∈ registry.bucket p ∨ s ∈ routes := by
  induction routes generalizing registry with
  | nil => exact .inl h
  | cons r rest ih =>
    rcases ih h with hs | hs
    · rcases mem_bucket_insert.mp hs with ⟨_, rfl⟩ | ⟨hs, _⟩
      · exact .inr List.mem_cons_self
      · exact .inl hs
    · exact .inr (List.mem_cons_of_mem _ hs)

/-- What is found is the first route of the provider's bucket that serves the family. -/
theorem find_eq_ok_iff {given : Value} {route : Route} :
    registry.find given = .ok route ↔ ∃ id s, ModelId.ofValue given = .ok id ∧
      (registry.bucket id.provider).find? (fun r => r.serves id.family) = some s ∧
        route = { s with modelId := some id } := by
  constructor
  · intro h
    cases hid : ModelId.ofValue given with
    | error e =>
      rw [find_of_ofValue_error hid] at h
      cases h
    | ok id =>
      rw [find_of_ofValue_ok hid] at h
      cases hs : (registry.bucket id.provider).find? fun r => r.serves id.family with
      | none =>
        rw [lookup_of_find?_eq_none hs] at h
        cases h
      | some s =>
        rw [lookup_of_find? hs] at h
        exact ⟨id, s, rfl, hs, (Except.ok.inj h).symm⟩
  · rintro ⟨id, s, hid, hs, rfl⟩
    rw [find_of_ofValue_ok hid]
    exact lookup_of_find? hs

/-- What is found is a listed route, with the model id put into it. -/
theorem of_find_ok {given : Value} {route : Route} (h : registry.find given = .ok route) :
    ∃ id s, s ∈ registry.bucket id.provider ∧ route = { s with modelId := some id } := by
  obtain ⟨id, s, _, hs, hroute⟩ := find_eq_ok_iff.mp h
  exact ⟨id, s, List.mem_of_find?_eq_some hs, hroute⟩

theorem mem_standardRoutes {p : String} {s : Route} (h : s ∈ standard.bucket p) :
    s ∈ standardRoutes := by
  have hmem : s ∈ empty.bucket p ∨ s ∈ standardRoutes := mem_bucket_of_inserts h
  exact hmem.resolve_left List.not_mem_nil

/-- What the standard registry finds has the adapter of a standard route. -/
theorem adapter_of_find {given : Value} {route : Route} (h : standard.find given = .ok route) :
    route.adapter ∈ standardRoutes.map Route.adapter := by
  obtain ⟨id, s, hs, rfl⟩ := of_find_ok h
  have hadapter : s.adapter ∈ standardRoutes.map Route.adapter :=
    List.mem_map_of_mem (mem_standardRoutes hs)
  exact hadapter

theorem adapter_of_validate {r s : Route} (h : validate r = .ok s) : s.adapter = r.adapter := by
  unfold validate at h
  dsimp only at h
  split at h
  · cases h
  · split at h
    · cases h
    · split at h
      · cases h
      · rw [← Except.ok.inj h]

theorem adapter_of_afterCalls {calls : List Route} {p : String} {s : Route}
    (h : s ∈ (registry.afterCalls calls).bucket p) :
    s ∈ registry.bucket p ∨ ∃ r ∈ calls, s.adapter = r.adapter := by
  induction calls generalizing registry with
  | nil => exact .inl h
  | cons r rest ih =>
    rw [afterCalls_cons] at h
    rcases ih h with hs | ⟨r', hr', hadapter⟩
    · cases hv : validate r with
      | error why =>
        rw [afterCall_of_error hv] at hs
        exact .inl hs
      | ok listed =>
        rw [afterCall_of_ok hv] at hs
        rcases mem_bucket_insert.mp hs with ⟨_, rfl⟩ | ⟨hs, _⟩
        · exact .inr ⟨r, List.mem_cons_self, adapter_of_validate hv⟩
        · exact .inl hs
    · exact .inr ⟨r', List.mem_cons_of_mem _ hr', hadapter⟩

/-- What is found after a history has the adapter of one of its calls, or a standard one. -/
theorem Origin.adapter_of_find (origin : Origin) {calls : List Route} {given : Value}
    {route : Route} (h : (origin.registry.afterCalls calls).find given = .ok route) :
    route.adapter ∈ standardRoutes.map Route.adapter ∨
      ∃ r ∈ calls, route.adapter = r.adapter := by
  obtain ⟨id, s, hs, rfl⟩ := of_find_ok h
  rcases adapter_of_afterCalls hs with hs | hcalled
  · cases origin with
    | empty => cases hs
    | standard =>
      have hadapter : s.adapter ∈ standardRoutes.map Route.adapter :=
        List.mem_map_of_mem (mem_standardRoutes hs)
      exact .inl hadapter
  · exact .inr hcalled

/-- What is found in a sound registry has an adapter for all that it declares. -/
theorem backed_of_find (hsound : Sound registry) {given : Value} {route : Route}
    (h : registry.find given = .ok route) :
    ∀ c, route.supports c = true → route.adapter.implements c = true := by
  obtain ⟨id, s, hs, rfl⟩ := of_find_ok h
  intro c hc
  exact (hsound.of_mem hs).1.backed c (List.contains_iff_mem.mp hc)

/-- After every history a look-up finds the last accepted route of the longest prefix that serves
the model, fails only for want of a model id or of such a prefix, and depends on nothing else. -/
theorem find_longest_accepted (origin : Origin) (calls : List Route) (given : Value) :
    let registry := origin.registry.afterCalls calls
    let table := lastAccepted (origin.calls ++ calls)
    (∀ id, ModelId.ofValue given = .ok id → (∃ x, Serves table id x) →
      ∃ x r, Longest table id x ∧ (∀ y, Longest table id y → y = x) ∧
        table id.provider x = some r ∧ registry.find given = .ok { r with modelId := some id }) ∧
      ((∃ e, registry.find given = .error e ∧ e.kind = .unsupportedModel) ↔
        (∃ e, ModelId.ofValue given = .error e) ∨
          ∃ id, ModelId.ofValue given = .ok id ∧ ¬∃ x, Serves table id x) ∧
      (∀ e, registry.find given = .error e → e.kind = .unsupportedModel) ∧
      ∀ (origin' : Origin) (calls' : List Route), lastAccepted (origin'.calls ++ calls') = table →
        (origin'.registry.afterCalls calls').find given = registry.find given := by
  intro registry table
  have h : Sound registry := origin.sound calls
  have htable : registry.routeAt = table := origin.routeAt_afterCalls calls
  have hiff := find_error_iff h given
  rw [htable] at hiff
  refine ⟨?_, hiff, ?_, ?_⟩
  · intro id hid hserved
    rw [← htable] at hserved ⊢
    obtain ⟨x, r, hlong, hentry, hfind⟩ := find_of_serves h hid hserved
    exact ⟨x, r, hlong, fun y hy => hy.unique hlong, hentry, hfind⟩
  · intro e he
    exact (of_find_error h he).1
  · intro origin' calls' hsame
    refine find_congr (origin'.sound calls') h ?_ given
    rw [origin'.routeAt_afterCalls, hsame, htable]

end ModelGateway.Registry
