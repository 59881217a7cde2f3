import ModelGateway.Registry
import Mathlib.Data.List.Nodup
import Mathlib.Data.String.Basic

/-!
# Buckets stay sorted and free of duplicates

`Registry.Sound` says what a registry keeps through every registration: each provider has one
bucket, no bucket is empty, and a bucket lists validated routes of its provider with longer prefixes
first and no prefix twice. Registration is described by what it does to membership in a bucket;
the order inside one length of prefix is left open.
-/
namespace ModelGateway

/-- What validation guarantees of a route. -/
structure Route.Listed (r : Route) : Prop where
  provider_ne : r.provider ≠ ""
  provider_normal : ∃ given, r.provider = Text.lower (Text.strip given)
  adapter_provider : r.adapter.provider = r.provider
  familyPrefix_ne : r.familyPrefix ≠ ""
  familyPrefix_normal : ∃ given, r.familyPrefix = Text.lower (Text.strip given)
  backed : ∀ c ∈ r.capabilities, r.adapter.implements c = true

namespace Registry

def LongerFirst (routes : List Route) : Prop :=
  routes.Pairwise fun r s => s.familyPrefix.length ≤ r.familyPrefix.length

def DistinctPrefixes (routes : List Route) : Prop := (routes.map Route.familyPrefix).Nodup

structure SoundBucket (provider : String) (routes : List Route) : Prop where
  nonempty : routes ≠ []
  listed : ∀ r ∈ routes, r.Listed
  provider_eq : ∀ r ∈ routes, r.provider = provider
  longerFirst : LongerFirst routes
  distinct : DistinctPrefixes routes

structure Sound (registry : Registry) : Prop where
  /-- Each provider has one bucket. -/
  keys : (registry.buckets.map Prod.fst).Nodup
  buckets : ∀ b ∈ registry.buckets, SoundBucket b.1 b.2

/-! ## Sorting by length -/

theorem place_perm (r : Route) (routes : List Route) : (place r routes).Perm (r :: routes) := by
  induction routes with
  | nil => exact .refl _
  | cons s rest ih =>
    rw [place]
    split
    · exact .refl _
    · exact (ih.cons s).trans (.swap r s rest)

theorem place_longerFirst (r : Route) (routes : List Route) (h : LongerFirst routes) :
    LongerFirst (place r routes) := by
  induction routes with
  | nil => exact List.pairwise_singleton _ r
  | cons s rest ih =>
    obtain ⟨hs, hrest⟩ := List.pairwise_cons.mp h
    rw [place]
    split
    · rename_i hle
      refine List.pairwise_cons.mpr ⟨?_, h⟩
      intro t ht
      rcases List.mem_cons.mp ht with rfl | ht
      · exact hle
      · exact (hs t ht).trans hle
    · rename_i hlt
      refine List.pairwise_cons.mpr ⟨?_, ih hrest⟩
      intro t ht
      rcases List.mem_cons.mp ((place_perm r rest).mem_iff.mp ht) with rfl | ht
      · omega
      · exact hs t ht

theorem byLength_perm (routes : List Route) : (byLength routes).Perm routes := by
  induction routes with
  | nil => exact .refl _
  | cons r rest ih => exact (place_perm r (byLength rest)).trans (ih.cons r)

theorem byLength_longerFirst (routes : List Route) : LongerFirst (byLength routes) := by
  induction routes with
  | nil => exact .nil
  | cons r rest ih => exact place_longerFirst r (byLength rest) ih

/-! ## Buckets under their providers -/

variable {registry : Registry} {provider : String} {routes : List Route}

theorem lookup_setBucket (buckets : List (String × List Route)) (other : String) :
    (setBucket provider routes buckets).lookup other =
      if other = provider then some routes else buckets.lookup other := by
  induction buckets with
  | nil => by_cases h : other = provider <;> simp [setBucket, List.lookup_cons, h, beq_false_of_ne]
  | cons b rest ih =>
    obtain ⟨p, rs⟩ := b
    by_cases hp : p = provider
    · by_cases h : other = provider <;>
        simp [setBucket, List.lookup_cons, hp, h, beq_false_of_ne]
    · rw [setBucket, if_neg hp, List.lookup_cons, List.lookup_cons, ih]
      by_cases h : other = p
      · simp [h, hp]
      · simp [beq_false_of_ne h]

theorem mem_setBucket {buckets : List (String × List Route)} {b : String × List Route}
    (h : b ∈ setBucket provider routes buckets) : b = (provider, routes) ∨ b ∈ buckets := by
  induction buckets with
  | nil => exact .inl (List.mem_singleton.mp h)
  | cons c rest ih =>
    rw [setBucket] at h
    split at h
    · rcases List.mem_cons.mp h with h | h
      · exact .inl h
      · exact .inr (List.mem_cons_of_mem c h)
    · rcases List.mem_cons.mp h with rfl | h
      · exact .inr List.mem_cons_self
      · exact (ih h).imp_right (List.mem_cons_of_mem c)

theorem mem_keys_setBucket {buckets : List (String × List Route)} {p : String} :
    p ∈ (setBucket provider routes buckets).map Prod.fst ↔
      p = provider ∨ p ∈ buckets.map Prod.fst := by
  induction buckets with
  | nil => simp [setBucket]
  | cons c rest ih =>
    rw [setBucket]
    split
    · rename_i hc
      simp [hc]
    · rw [List.map_cons, List.mem_cons, ih, List.map_cons, List.mem_cons]
      exact or_left_comm

theorem keys_setBucket_nodup {buckets : List (String × List Route)}
    (h : (buckets.map Prod.fst).Nodup) : ((setBucket provider routes buckets).map Prod.fst).Nodup := by
  induction buckets with
  | nil => exact List.nodup_singleton provider
  | cons c rest ih =>
    obtain ⟨hc, hrest⟩ := List.nodup_cons.mp h
    rw [setBucket]
    split
    · rename_i hp
      rw [← hp]
      exact h
    · rename_i hp
      refine List.nodup_cons.mpr ⟨?_, ih hrest⟩
      intro hmem
      exact (mem_keys_setBucket.mp hmem).elim hp hc

/-- A provider's bucket is one of the buckets, unless the provider has none. -/
theorem bucket_mem_of_ne_nil (h : registry.bucket provider ≠ []) :
    (provider, registry.bucket provider) ∈ registry.buckets := by
  unfold bucket at h ⊢
  cases hl : registry.buckets.lookup provider with
  | none => simp [hl] at h
  | some rs =>
    obtain ⟨before, after, hb, _⟩ := List.lookup_eq_some_iff.mp hl
    simp [hb]

theorem bucket_eq_of_mem (hk : (registry.buckets.map Prod.fst).Nodup)
    (h : (provider, routes) ∈ registry.buckets) : registry.bucket provider = routes := by
  unfold bucket
  obtain ⟨before, after, hb⟩ := List.append_of_mem h
  have hfresh : ∀ b ∈ before, provider ≠ b.1 := by
    rw [hb, List.map_append, List.nodup_append] at hk
    intro b hmem heq
    exact hk.2.2 b.1 (List.mem_map_of_mem hmem) provider (by simp) heq.symm
  have hl : registry.buckets.lookup provider = some routes :=
    List.lookup_eq_some_iff.mpr ⟨before, after, hb, by simpa using hfresh⟩
  rw [hl]
  rfl

theorem bucket_insert (r : Route) (p : String) :
    (registry.insert r).bucket p =
      if p = r.provider then
        byLength ((registry.bucket p).filter (fun s => s.familyPrefix != r.familyPrefix) ++ [r])
      else registry.bucket p := by
  simp only [bucket, insert, lookup_setBucket]
  by_cases h : p = r.provider
  · simp [h]
  · simp [h]

/-- Inserting a route replaces the one with its key and keeps all others. -/
theorem mem_bucket_insert {r s : Route} {p : String} :
    s ∈ (registry.insert r).bucket p ↔
      (p = r.provider ∧ s = r) ∨
        (s ∈ registry.bucket p ∧ ¬(p = r.provider ∧ s.familyPrefix = r.familyPrefix)) := by
  rw [bucket_insert]
  by_cases h : p = r.provider
  · simp only [h, if_true, (byLength_perm _).mem_iff, List.mem_append, List.mem_filter,
      List.mem_singleton, bne_iff_ne, true_and]
    exact or_comm
  · simp [h]

/-! ## Registration keeps registries sound -/

theorem empty_sound : Sound empty := ⟨List.nodup_nil, by simp [empty]⟩

theorem Sound.bucket (h : Sound registry) (p : String) (hne : registry.bucket p ≠ []) :
    SoundBucket p (registry.bucket p) := h.buckets _ (bucket_mem_of_ne_nil hne)

theorem Sound.distinct (h : Sound registry) (p : String) : DistinctPrefixes (registry.bucket p) := by
  by_cases hne : registry.bucket p = []
  · rw [hne]; exact List.nodup_nil
  · exact (h.bucket p hne).distinct

theorem Sound.longerFirst (h : Sound registry) (p : String) : LongerFirst (registry.bucket p) := by
  by_cases hne : registry.bucket p = []
  · rw [hne]; exact .nil
  · exact (h.bucket p hne).longerFirst

theorem Sound.of_mem (h : Sound registry) {p : String} {r : Route} (hr : r ∈ registry.bucket p) :
    r.Listed ∧ r.provider = p := by
  have hb := h.bucket p (List.ne_nil_of_mem hr)
  exact ⟨hb.listed r hr, hb.provider_eq r hr⟩

/-- A sound bucket holds one route for a prefix. -/
theorem Sound.eq_of_familyPrefix_eq (h : Sound registry) {p : String} {r s : Route}
    (hr : r ∈ registry.bucket p) (hs : s ∈ registry.bucket p)
    (heq : r.familyPrefix = s.familyPrefix) : r = s :=
  List.inj_on_of_nodup_map (h.distinct p) hr hs heq

theorem insert_sound {r : Route} (h : Sound registry) (hr : r.Listed) : Sound (registry.insert r) := by
  refine ⟨keys_setBucket_nodup h.keys, ?_⟩
  intro b hb
  rcases mem_setBucket hb with rfl | hold
  · let others := (registry.bucket r.provider).filter fun s => s.familyPrefix != r.familyPrefix
    have hperm : (byLength (others ++ [r])).Perm (others ++ [r]) := byLength_perm _
    have hmem : ∀ s ∈ byLength (others ++ [r]), s ∈ registry.bucket r.provider ∨ s = r := by
      intro s hs
      rcases List.mem_append.mp (hperm.mem_iff.mp hs) with hs | hs
      · exact .inl (List.mem_of_mem_filter hs)
      · exact .inr (List.mem_singleton.mp hs)
    constructor
    · intro hnil
      have hlen := hperm.length_eq
      change byLength (others ++ [r]) = [] at hnil
      rw [hnil, List.length_append, List.length_singleton] at hlen
      simp at hlen
    · intro s hs
      rcases hmem s hs with hs | rfl
      · exact (h.of_mem hs).1
      · exact hr
    · intro s hs
      rcases hmem s hs with hs | rfl
      · exact (h.of_mem hs).2
      · rfl
    · exact byLength_longerFirst _
    · have hnodup : DistinctPrefixes (others ++ [r]) := by
        unfold DistinctPrefixes
        rw [List.map_append, List.nodup_append]
        refine ⟨(h.distinct r.provider).sublist (List.filter_sublist.map _), List.nodup_singleton _, ?_⟩
        intro x hx y hy
        obtain ⟨s, hs, rfl⟩ := List.mem_map.mp hx
        rw [List.mem_singleton.mp hy]
        simpa using (List.mem_filter.mp hs).2
      exact (hperm.map _).nodup_iff.mpr hnodup
  · exact h.buckets b hold

end Registry
end ModelGateway
