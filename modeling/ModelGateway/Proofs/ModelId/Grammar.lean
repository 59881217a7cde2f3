import ModelGateway.Proofs.ModelId
import ModelGateway.Proofs.Text.Case

/-!
# Which texts are model ids

A text names a model if it has a dot and, once a region has been taken off, something stands in front
of the next dot and something after it. All of these texts are read and no others, and an identifier
spells the text that it was read from. Its provider is never empty. Its family is empty when a
version follows the provider's dot at once, because the version is split off last.
-/
namespace ModelGateway

namespace ModelId

/-- What stands in front of the first dot. -/
def beforeDot (cs : List Char) : List Char := cs.takeWhile (· ≠ '.')

/-- What follows the first dot. -/
def afterDot (cs : List Char) : List Char := (cs.dropWhile (· ≠ '.')).tail

/-- A region comes first: the part in front is a region token, and another dot follows. -/
def InRegion (cs : List Char) : Prop :=
  Text.lower (String.ofList (beforeDot cs)) ∈ regionTokens ∧ '.' ∈ afterDot cs

instance (cs : List Char) : Decidable (InRegion cs) := inferInstanceAs (Decidable (_ ∧ _))

/-- The region that comes first, if one does. -/
def region? (cs : List Char) : Option (List Char) :=
  if InRegion cs then some (beforeDot cs) else none

/-- What is left once a region has been taken off. -/
def base (cs : List Char) : List Char := if InRegion cs then afterDot cs else cs

/-- The texts that name a model. -/
def Named (cs : List Char) : Prop :=
  '.' ∈ cs ∧ beforeDot (base cs) ≠ [] ∧ afterDot (base cs) ≠ []

/-- A region with the dot after it. -/
def regionPart : Option String → String
  | some region => region ++ "."
  | none => ""

/-- A version with the colon in front of it. -/
def versionPart : Option String → String
  | some version => ":" ++ version
  | none => ""

/-- An identifier keeps every character of a text, but for the case of provider and family. -/
structure Spells (raw : String) (id : ModelId) : Prop where
  raw_eq : id.raw = raw
  parts : ∃ provider family : String, '.' ∉ provider.toList ∧ ':' ∉ family.toList ∧
    id.provider = Text.lower provider ∧ id.family = Text.lower family ∧
    raw = regionPart id.region ++ provider ++ "." ++ family ++ versionPart id.version
  region_eq : id.region = (region? raw.toList).map String.ofList
  version_iff : id.version.isSome = true ↔ ':' ∈ afterDot (base raw.toList)
  base_eq : raw = regionPart id.region ++ id.baseId

/-! ## Dots -/

section Dots

variable {cs front : List Char}

theorem forall_ne_dot (h : '.' ∉ front) : ∀ c ∈ front, decide (c ≠ '.') = true := by
  intro c hc
  rw [decide_eq_true_eq]
  rintro rfl
  exact h hc

theorem beforeDot_append (h : '.' ∉ front) (rest : List Char) :
    beforeDot (front ++ '.' :: rest) = front := by
  rw [beforeDot, List.takeWhile_append_of_pos (forall_ne_dot h)]
  simp

theorem afterDot_append (h : '.' ∉ front) (rest : List Char) :
    afterDot (front ++ '.' :: rest) = rest := by
  rw [afterDot, List.dropWhile_append_of_pos (forall_ne_dot h)]
  simp

/-- A text with a dot falls into region, provider and the rest in the way that its dots say. -/
theorem splits_of_dot (h : '.' ∈ cs) :
    Splits cs (region? cs) (beforeDot (base cs)) (afterDot (base cs)) := by
  obtain ⟨front, rest, rfl, hfront⟩ := List.eq_append_cons_of_mem h
  have hbefore := beforeDot_append hfront rest
  have hafter := afterDot_append hfront rest
  by_cases hregion : InRegion (front ++ '.' :: rest)
  · rw [region?, base, if_pos hregion, if_pos hregion, hbefore, hafter]
    obtain ⟨htoken, hdot⟩ := hregion
    rw [hbefore] at htoken
    rw [hafter] at hdot
    obtain ⟨provider, rest, rfl, hprovider⟩ := List.eq_append_cons_of_mem hdot
    rw [beforeDot_append hprovider, afterDot_append hprovider]
    exact .regional hfront (List.contains_iff_mem.mpr htoken) hprovider
  · rw [region?, base, if_neg hregion, if_neg hregion, hbefore, hafter]
    refine .plain hfront fun htoken hdot => hregion ⟨?_, ?_⟩
    · rw [hbefore]
      exact List.contains_iff_mem.mp htoken
    · rwa [hafter]

theorem split?_of_no_dot (h : '.' ∉ cs) : split? cs = none := by
  unfold split?
  rw [splitFirst_of_not_mem h]

end Dots

/-! ## Reading -/

variable {given : String}

theorem parse_of_no_dot (h : '.' ∉ (Text.strip given).toList) :
    parse given =
      .error (.unsupportedModel (Text.strip given) (some "expected '<provider>.<model>'")) := by
  unfold parse
  dsimp only
  rw [split?_of_no_dot h]

theorem parse_of_empty_part {region : Option (List Char)} {provider rest : List Char}
    (h : Splits (Text.strip given).toList region provider rest)
    (hempty : provider = [] ∨ rest = []) :
    parse given =
      .error (.unsupportedModel (Text.strip given) (some "empty provider or model family")) := by
  have hparts : (provider.isEmpty || rest.isEmpty) = true := by
    simpa only [Bool.or_eq_true, List.isEmpty_iff] using hempty
  unfold parse
  dsimp only
  rw [h.split?]
  exact if_pos hparts

/-- Reading ends in one of two ways, as a text names a model or not. -/
theorem parse_cases (given : String) :
    (Named (Text.strip given).toList ∧
      parse given = .ok (ofParts (Text.strip given) (region? (Text.strip given).toList)
        (beforeDot (base (Text.strip given).toList))
        (afterDot (base (Text.strip given).toList)))) ∨
    (¬Named (Text.strip given).toList ∧
      ∃ reason, parse given = .error (.unsupportedModel (Text.strip given) (some reason))) := by
  by_cases hdot : '.' ∈ (Text.strip given).toList
  · have hsplits := splits_of_dot hdot
    by_cases hprovider : beforeDot (base (Text.strip given).toList) = []
    · exact .inr ⟨fun hnamed => hnamed.2.1 hprovider, _, parse_of_empty_part hsplits (.inl hprovider)⟩
    by_cases hrest : afterDot (base (Text.strip given).toList) = []
    · exact .inr ⟨fun hnamed => hnamed.2.2 hrest, _, parse_of_empty_part hsplits (.inr hrest)⟩
    · exact .inl ⟨⟨hdot, hprovider, hrest⟩,
        parse_eq_ok_iff.mpr ⟨_, _, _, hsplits, hprovider, hrest, rfl⟩⟩
  · exact .inr ⟨fun hnamed => hdot hnamed.1, _, parse_of_no_dot hdot⟩

/-! ## What an identifier spells -/

theorem toList_regionPart (region : Option (List Char)) :
    (regionPart (region.map String.ofList)).toList =
      match region with
      | some region => region ++ ['.']
      | none => [] := by
  cases region with
  | none => rfl
  | some region => simp [regionPart]

/-- The rest of a text is the family, and the version after a colon if there is one. -/
theorem rest_eq_family_version (rest : List Char) :
    ':' ∉ (splitFirst ':' rest).1 ∧
    rest = (splitFirst ':' rest).1 ++
      (versionPart ((splitFirst ':' rest).2.map String.ofList)).toList ∧
    ((splitFirst ':' rest).2.isSome = true ↔ ':' ∈ rest) := by
  rcases splitFirst_cases ':' rest with ⟨family, version, hcolon, rfl, hsplit⟩ | ⟨hcolon, hsplit⟩
  · rw [hsplit]
    refine ⟨hcolon, ?_, ?_⟩
    · simp [versionPart]
    · simp
  · rw [hsplit]
    refine ⟨hcolon, ?_, ?_⟩
    · simp [versionPart]
    · simp [hcolon]

theorem Splits.eq_append {cs provider rest : List Char} {region : Option (List Char)}
    (h : Splits cs region provider rest) :
    cs = (regionPart (region.map String.ofList)).toList ++ (provider ++ '.' :: rest) ∧
      '.' ∉ provider := by
  rw [toList_regionPart]
  cases h with
  | plain hprovider _ => exact ⟨rfl, hprovider⟩
  | regional _ _ hprovider => exact ⟨by simp, hprovider⟩

theorem baseId_ofParts {raw : String} {region : Option (List Char)} {provider rest : List Char}
    (h : Splits raw.toList region provider rest) :
    (ofParts raw region provider rest).baseId = String.ofList (provider ++ '.' :: rest) := by
  generalize hcs : raw.toList = cs at h
  cases h with
  | plain _ _ =>
    change raw = _
    rw [← hcs, String.ofList_toList]
  | @regional region _ _ _ _ _ =>
    have hlength : (region ++ ['.']).length = (String.ofList region).length + 1 := by
      rw [List.length_append, String.length_ofList, List.length_singleton]
    change String.ofList (raw.toList.drop ((String.ofList region).length + 1)) = _
    rw [hcs, ← hlength, List.append_cons region '.' (provider ++ '.' :: rest), List.drop_left]

/-- The parts of a text, put together again, give the text. -/
theorem Splits.written {raw : String} {region : Option (List Char)} {provider rest : List Char}
    (h : Splits raw.toList region provider rest) :
    raw = regionPart (region.map String.ofList) ++ String.ofList provider ++ "." ++
      String.ofList (splitFirst ':' rest).1 ++
        versionPart ((splitFirst ':' rest).2.map String.ofList) := by
  obtain ⟨_, hrest, _⟩ := rest_eq_family_version rest
  apply String.toList_inj.mp
  rw [h.eq_append.1]
  simp only [String.toList_append, String.toList_ofList, List.append_assoc]
  rw [← hrest]
  rfl

theorem Splits.spells {raw : String} {region : Option (List Char)} {provider rest : List Char}
    (h : Splits raw.toList region provider rest) (hregion : region = region? raw.toList)
    (hrest : rest = afterDot (base raw.toList)) : Spells raw (ofParts raw region provider rest) := by
  obtain ⟨hfamily, _, hversion⟩ := rest_eq_family_version rest
  have hprovider := h.eq_append.2
  constructor
  · rfl
  · refine ⟨String.ofList provider, String.ofList (splitFirst ':' rest).1, ?_, ?_, rfl, rfl,
      h.written⟩
    · rwa [String.toList_ofList]
    · rwa [String.toList_ofList]
  · rw [← hregion]
    rfl
  · rw [← hrest, ← hversion]
    change ((splitFirst ':' rest).2.map String.ofList).isSome = true ↔ _
    rw [Option.isSome_map]
  · rw [baseId_ofParts h]
    apply String.toList_inj.mp
    rw [h.eq_append.1, String.toList_append, String.toList_ofList]
    rfl

theorem provider_ofParts_ne_empty (raw : String) (region : Option (List Char)) {provider : List Char}
    (h : provider ≠ []) (rest : List Char) : (ofParts raw region provider rest).provider ≠ "" := by
  intro hempty
  exact h (String.ofList_eq_empty_iff.mp (Text.lower_eq_empty_iff.mp hempty))

/-- The family is empty when a colon follows the provider's dot at once. -/
theorem family_ofParts_eq_empty_iff (raw : String) (region : Option (List Char))
    (provider : List Char) {rest : List Char} (h : rest ≠ []) :
    (ofParts raw region provider rest).family = "" ↔ rest.head? = some ':' := by
  obtain ⟨c, rest, rfl⟩ := List.exists_cons_of_ne_nil h
  change Text.lower (String.ofList (splitFirst ':' (c :: rest)).1) = "" ↔ _
  rw [Text.lower_eq_empty_iff, String.ofList_eq_empty_iff]
  by_cases hc : c = ':'
  · simp [splitFirst, hc]
  · simp [splitFirst, hc]

/-- A text is read if and only if it names a model. What is read spells the text, and what is not
read is refused with it. -/
theorem parse_accepts_named_only (given : String) :
    ((∃ id, parse given = .ok id) ↔ Named (Text.strip given).toList) ∧
    match parse given with
    | .ok id => Spells (Text.strip given) id
    | .error e => ∃ reason, e = .unsupportedModel (Text.strip given) (some reason) := by
  rcases parse_cases given with ⟨hnamed, hparse⟩ | ⟨hnot, reason, hparse⟩
  · have hspells := (splits_of_dot hnamed.1).spells rfl rfl
    rw [hparse]
    constructor
    · constructor
      · intro _
        exact hnamed
      · intro _
        exact ⟨_, rfl⟩
    · exact hspells
  · rw [hparse]
    refine ⟨⟨?_, fun hnamed => absurd hnamed hnot⟩, reason, rfl⟩
    intro hread
    obtain ⟨id, hid⟩ := hread
    exact nomatch hid

/-- What is read has a provider, and it has a family unless a version follows the provider's dot at
once. A text with nothing in front of that dot or nothing after it is refused. -/
theorem family_empty_iff_version_first (given : String) :
    match parse given with
    | .ok id => Named (Text.strip given).toList ∧ id.provider ≠ "" ∧
        (id.family = "" ↔ (afterDot (base (Text.strip given).toList)).head? = some ':')
    | .error e => ¬Named (Text.strip given).toList ∧ e.kind = .unsupportedModel := by
  have hcases := parse_cases given
  -- The outcome is kept closed: a goal that matches on it would be evaluated.
  generalize parse given = outcome at hcases ⊢
  rcases hcases with ⟨hnamed, rfl⟩ | ⟨hnot, reason, rfl⟩
  · exact ⟨hnamed, provider_ofParts_ne_empty _ _ hnamed.2.1 _,
      family_ofParts_eq_empty_iff _ _ _ hnamed.2.2⟩
  · exact ⟨hnot, rfl⟩

/-- The family in front of a version may be empty, though nothing else may. -/
theorem family_can_be_empty :
    parse "amazon.:0" = .ok ⟨"amazon.:0", "amazon", "", some "0", none⟩ ∧
      ¬ ∀ given id, parse given = .ok id → id.provider ≠ "" ∧ id.family ≠ "" := by
  have hparse : parse "amazon.:0" = .ok ⟨"amazon.:0", "amazon", "", some "0", none⟩ := by
    decide +kernel
  exact ⟨hparse, fun h => (h _ _ hparse).2 rfl⟩

end ModelId
end ModelGateway
