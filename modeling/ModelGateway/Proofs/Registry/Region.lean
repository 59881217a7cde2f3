import ModelGateway.Proofs.ModelId
import ModelGateway.Proofs.Registry.Lookup

/-!
# Regions make no difference to look-ups

Where no provider has the name of a region token, a region in front of a model id is split off and
the rest is read as the id alone is read. So the same route is found with the region and without it.
-/
namespace ModelGateway

/-! ## Region tokens -/

theorem regionTokens_plain :
    ∀ token ∈ regionTokens, ∀ c ∈ token.toList, Text.isBlank c = false ∧ c ≠ '.' := by
  -- Deciding the statement itself may go through all characters.
  have hall : (regionTokens.all fun token =>
      token.toList.all fun c => !Text.isBlank c && c != '.') = true := by decide
  simpa only [List.all_eq_true, Bool.and_eq_true, Bool.not_eq_true', bne_iff_ne] using hall

namespace ModelId

variable {region : String}

/-- A region token has no blank and no dot in it. -/
theorem plain_of_regionToken (h : Text.lower region ∈ regionTokens) :
    ∀ c ∈ region.toList, Text.isBlank c = false ∧ c ≠ '.' := by
  have hmem : ∀ c ∈ region.toList, Text.Settled c → Text.isBlank c = false ∧ c ≠ '.' := by
    intro c hc hsettled
    refine regionTokens_plain _ h c ?_
    rw [Text.lower, String.toList_ofList]
    exact Text.mem_lowerAfter_of_settled hsettled [] hc
  intro c hc
  constructor
  · rw [Bool.eq_false_iff]
    intro hblank
    have hnot := (hmem c hc (Text.settled_of_isBlank hblank)).1
    rw [hblank] at hnot
    cases hnot
  · rintro rfl
    exact (hmem '.' hc (by decide +kernel)).2 rfl

theorem isRegionToken_toList (h : Text.lower region ∈ regionTokens) :
    isRegionToken region.toList = true := by
  rw [isRegionToken, String.ofList_toList]
  exact List.contains_iff_mem.mpr h

theorem toList_ne_nil_of_regionToken (h : Text.lower region ∈ regionTokens) : region.toList ≠ [] := by
  intro hnil
  have hempty : Text.lower region = "" := by
    rw [Text.lower, hnil]
    rfl
  rw [hempty] at h
  revert h
  decide

/-! ## The same id in a region -/

/-- An identifier in a region. -/
def within (id : ModelId) (region : String) : ModelId :=
  { id with raw := region ++ "." ++ id.raw, region := some region }

/-- An identifier without its region. -/
def withoutRegion (id : ModelId) : ModelId := { id with raw := id.baseId, region := none }

theorem baseId_within (id : ModelId) (region : String) : (id.within region).baseId = id.raw := by
  change String.ofList ((region ++ "." ++ id.raw).toList.drop (region.length + 1)) = id.raw
  have hlength : (region.toList ++ ['.']).length = region.length + 1 := by
    rw [List.length_append, String.length_toList, List.length_singleton]
  rw [String.toList_append, String.toList_append, show ".".toList = ['.'] from rfl, ← hlength,
    List.drop_left, String.ofList_toList]

theorem trimmed_within {cs : List Char} (hregion : Text.lower region ∈ regionTokens)
    (hcs : cs ≠ []) (h : Text.Trimmed cs) : Text.Trimmed (region.toList ++ '.' :: cs) := by
  have hplain := plain_of_regionToken hregion
  have hne := toList_ne_nil_of_regionToken hregion
  intro _
  constructor
  · rw [List.head_append_of_ne_nil hne]
    exact (hplain _ (List.head_mem hne)).1
  · rw [List.getLast_append_of_ne_nil _ (List.cons_ne_nil _ _), List.getLast_cons hcs]
    exact (h hcs).2

/-- What is read of an id without a region is also read of it in a region. -/
theorem parse_within {given : String} {id : ModelId} (h : parse given = .ok id)
    (hnone : id.region = none) (hregion : Text.lower region ∈ regionTokens) :
    parse (id.within region).raw = .ok (id.within region) := by
  obtain ⟨region', provider, rest, hsplits, hne, hrest, rfl⟩ := parse_eq_ok_iff.mp h
  obtain rfl : region' = none := Option.map_eq_none_iff.mp hnone
  have htrimmed : Text.Trimmed (Text.strip given).toList :=
    Text.strip_eq_self_iff.mp (Text.strip_strip given)
  have hlist : ((ofParts (Text.strip given) none provider rest).within region).raw.toList =
      region.toList ++ '.' :: (Text.strip given).toList := by
    change (region ++ "." ++ Text.strip given).toList = _
    rw [String.toList_append, String.toList_append, List.append_assoc]
    rfl
  generalize (Text.strip given).toList = cs at hsplits htrimmed hlist
  cases hsplits with
  | plain hdot _ =>
    have hstrip := Text.strip_eq_self_iff.mpr
      (hlist ▸ trimmed_within hregion (by simp) htrimmed)
    have hplain := plain_of_regionToken hregion
    refine parse_eq_ok_iff.mpr ⟨some region.toList, provider, rest, ?_, hne, hrest, ?_⟩
    · rw [hstrip, hlist]
      exact .regional (fun hmem => (hplain '.' hmem).2 rfl) (isRegionToken_toList hregion) hdot
    · rw [hstrip]
      simp [ofParts, within]

theorem trimmed_base {token provider rest : List Char} (hne : provider ≠ [])
    (hlower : Text.Trimmed (Text.lowerAfter [] provider))
    (h : Text.Trimmed (token ++ '.' :: (provider ++ '.' :: rest))) :
    Text.Trimmed (provider ++ '.' :: rest) := by
  intro hbase
  constructor
  · obtain ⟨c, provider, rfl⟩ := List.exists_cons_of_ne_nil hne
    exact Text.head_not_blank_of_lower hlower
  · have hlast := (h (by simp)).2
    rwa [List.getLast_append_of_ne_nil _ (List.cons_ne_nil _ _), List.getLast_cons hbase] at hlast

/-- What is left of an id without its region is read as the id is, but for the region. -/
theorem parse_baseId {given : String} {id : ModelId} (h : parse given = .ok id)
    (hregion : id.region = some region) (hprovider : id.provider ∉ regionTokens)
    (hstrip : Text.strip id.provider = id.provider) :
    parse id.baseId = .ok id.withoutRegion := by
  obtain ⟨region', provider, rest, hsplits, hne, hrest, rfl⟩ := parse_eq_ok_iff.mp h
  obtain ⟨token, rfl, rfl⟩ := Option.map_eq_some_iff.mp hregion
  have htrimmed : Text.Trimmed (Text.strip given).toList :=
    Text.strip_eq_self_iff.mp (Text.strip_strip given)
  have hlower : Text.Trimmed (Text.lowerAfter [] provider) := by
    have hlower := Text.strip_eq_self_iff.mp hstrip
    rwa [ofParts, Text.lower, String.toList_ofList, String.toList_ofList] at hlower
  generalize hraw : Text.strip given = raw at hsplits htrimmed hprovider
  generalize hcs : raw.toList = cs at hsplits htrimmed
  cases hsplits with
  | regional hdot htoken hdot' =>
    have hbase : (ofParts raw (some token) provider rest).baseId =
        String.ofList (provider ++ '.' :: rest) := by
      have hlength : (token ++ ['.']).length = (String.ofList token).length + 1 := by
        rw [List.length_append, String.length_ofList, List.length_singleton]
      change String.ofList (raw.toList.drop ((String.ofList token).length + 1)) = _
      rw [hcs, ← hlength, List.append_cons token '.' (provider ++ '.' :: rest), List.drop_left]
    have hstripped : Text.strip (String.ofList (provider ++ '.' :: rest)) =
        String.ofList (provider ++ '.' :: rest) := by
      refine Text.strip_eq_self_iff.mpr ?_
      rw [String.toList_ofList]
      exact trimmed_base hne hlower htrimmed
    -- The second part is the provider, and no provider is a region token.
    have hsplits : Splits (provider ++ '.' :: rest) none provider rest :=
      .plain hdot' fun htoken => absurd (List.contains_iff_mem.mp htoken) hprovider
    refine parse_eq_ok_iff.mpr ⟨none, provider, rest, ?_, hne, hrest, ?_⟩
    · rw [hbase, hstripped, String.toList_ofList]
      exact hsplits
    · rw [withoutRegion, hbase, hstripped]
      rfl

end ModelId

namespace Registry

variable {registry : Registry} {given given' : Value} {route : Route} {id id' : ModelId}

theorem ofValue_of_find (hfind : registry.find given = .ok route)
    (hid : route.modelId = some id) : ModelId.ofValue given = .ok id := by
  obtain ⟨id', s, hread, _, rfl⟩ := find_eq_ok_iff.mp hfind
  obtain rfl := Option.some.inj hid
  exact hread

/-- The provider of an id that is found is a provider of the registry, so it is stripped. -/
theorem provider_of_find (h : Sound registry) (hfind : registry.find given = .ok route)
    (hid : route.modelId = some id) :
    id.provider ∈ registry.providers ∧ Text.strip id.provider = id.provider := by
  obtain ⟨id', s, _, hs, rfl⟩ := find_eq_ok_iff.mp hfind
  obtain rfl := Option.some.inj hid
  have hmem := List.mem_of_find?_eq_some hs
  refine ⟨(mem_providers h).mpr (List.ne_nil_of_mem hmem), ?_⟩
  obtain ⟨hlisted, hprovider⟩ := h.of_mem hmem
  obtain ⟨name, hname⟩ := hlisted.provider_normal
  rw [← hprovider, hname]
  exact Text.strip_lower_strip name

theorem ofValue_text (s : String) : ModelId.ofValue (.text s) = ModelId.parse s := by
  rw [ModelId.ofValue, Value.displayOrEmpty_text]

/-- An id with the same provider and family is found with the same route. -/
theorem find_of_same_parts (hfind : registry.find given = .ok route)
    (hid : route.modelId = some id) (hid' : ModelId.ofValue given' = .ok id')
    (hprovider : id'.provider = id.provider) (hfamily : id'.family = id.family) :
    registry.find given' = .ok { route with modelId := some id' } := by
  obtain ⟨found, s, _, hs, rfl⟩ := find_eq_ok_iff.mp hfind
  obtain rfl := Option.some.inj hid
  refine find_eq_ok_iff.mpr ⟨id', s, hid', ?_, rfl⟩
  rw [hprovider, hfamily]
  exact hs

/-- Where no provider is a region token: an id that is found without a region is found in every
region, whatever the case of its letters, and an id that is found in a region is found without it.
Either way the route is the same and so are the parts of the id but for the region. -/
theorem find_across_regions (origin : Origin) (calls : List Route)
    (hproviders : ∀ p ∈ (origin.registry.afterCalls calls).providers, p ∉ regionTokens) :
    let registry := origin.registry.afterCalls calls
    (∀ (base region : String) (route : Route) (id : ModelId), Text.strip base = base →
      registry.find (.text base) = .ok route → route.modelId = some id → id.region = none →
      Text.lower region ∈ regionTokens →
      registry.find (.text (region ++ "." ++ base)) =
          .ok { route with modelId := some (id.within region) } ∧
        (id.within region).baseId = base) ∧
    ∀ (given : Value) (route : Route) (id : ModelId) (region : String),
      registry.find given = .ok route → route.modelId = some id → id.region = some region →
      registry.find (.text id.baseId) = .ok { route with modelId := some id.withoutRegion } := by
  intro registry
  have hsound : Sound registry := origin.sound calls
  constructor
  · intro base region route id hstrip hfind hid hnone hregion
    have hparse := ofValue_of_find hfind hid
    rw [ofValue_text] at hparse
    have hraw : id.raw = base := by
      rw [ModelId.raw_of_parse hparse]
      exact hstrip
    have hparse' := ModelId.parse_within hparse hnone hregion
    have hwithin : (id.within region).raw = region ++ "." ++ base := by
      rw [ModelId.within, hraw]
    rw [hwithin, ← ofValue_text] at hparse'
    refine ⟨find_of_same_parts hfind hid hparse' rfl rfl, ?_⟩
    rw [ModelId.baseId_within, hraw]
  · intro given route id region hfind hid hregion
    obtain ⟨hmem, hstrip⟩ := provider_of_find hsound hfind hid
    have hbase := ModelId.parse_baseId (ofValue_of_find hfind hid) hregion (hproviders _ hmem) hstrip
    rw [← ofValue_text] at hbase
    exact find_of_same_parts hfind hid hbase rfl rfl

theorem find_across_regions_claude :
    let registry := Origin.standard.registry.afterCalls []
    let id : ModelId := ⟨"anthropic.claude-v2:1", "anthropic", "claude-v2", some "1", none⟩
    let route : Route := .make "anthropic" "claude" Claude.adapter textAndChat
    registry.find (.text ("US" ++ "." ++ id.raw)) =
        .ok { route with modelId := some (id.within "US") } ∧
      registry.find (.text (id.within "US").baseId) =
        .ok { route with modelId := some (id.within "US").withoutRegion } := by
  intro registry id route
  have hproviders : ∀ p ∈ registry.providers, p ∉ regionTokens := by
    intro p hp
    rw [providers, List.mem_mergeSort] at hp
    revert p
    decide
  have hparse : ModelId.ofValue (.text id.raw) = .ok id := by decide +kernel
  have hserved : (registry.bucket "anthropic").find? (fun r => r.serves "claude-v2") = some route :=
    Eq.refl _
  have hbase : registry.find (.text id.raw) = .ok { route with modelId := some id } :=
    find_eq_ok_iff.mpr ⟨id, route, hparse, hserved, rfl⟩
  obtain ⟨hto, hback⟩ := find_across_regions .standard [] hproviders
  have hregional := (hto id.raw "US" _ id (by decide +kernel) hbase rfl rfl (by decide +kernel)).1
  exact ⟨hregional, hback _ { route with modelId := some (id.within "US") } _ "US" hregional rfl rfl⟩

end Registry
end ModelGateway
