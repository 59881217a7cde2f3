import ModelGateway.ModelId
import ModelGateway.Proofs.Options

/-!
# How model ids are split

A dotted text falls apart at its first dot, or at its first two where the part in front is a region
token and a dot follows. The identifier that is read has the parts that the text falls into.
-/
namespace ModelGateway

variable {mark : Char} {cs front rest : List Char}

theorem splitFirst_append (h : mark ∉ front) (rest : List Char) :
    splitFirst mark (front ++ mark :: rest) = (front, some rest) := by
  induction front with
  | nil => exact if_pos rfl
  | cons c front ih =>
    obtain ⟨hc, hfront⟩ := List.ne_and_not_mem_of_not_mem_cons h
    rw [List.cons_append, splitFirst, if_neg (Ne.symm hc), ih hfront]

theorem splitFirst_of_not_mem (h : mark ∉ cs) : splitFirst mark cs = (cs, none) := by
  induction cs with
  | nil => rfl
  | cons c cs ih =>
    obtain ⟨hc, hcs⟩ := List.ne_and_not_mem_of_not_mem_cons h
    rw [splitFirst, if_neg (Ne.symm hc), ih hcs]

/-- A text has a first mark, with the text in front of it, or no mark at all. -/
theorem splitFirst_cases (mark : Char) (cs : List Char) :
    (∃ front rest, mark ∉ front ∧ cs = front ++ mark :: rest ∧
      splitFirst mark cs = (front, some rest)) ∨
      (mark ∉ cs ∧ splitFirst mark cs = (cs, none)) := by
  by_cases h : mark ∈ cs
  · obtain ⟨front, rest, rfl, hfront⟩ := List.eq_append_cons_of_mem h
    exact .inl ⟨front, rest, hfront, rfl, splitFirst_append hfront rest⟩
  · exact .inr ⟨h, splitFirst_of_not_mem h⟩

namespace ModelId

/-- How a dotted text falls into region, provider and the rest. -/
inductive Splits : List Char → Option (List Char) → List Char → List Char → Prop where
  | plain {provider rest : List Char} (hprovider : '.' ∉ provider)
      (htoken : isRegionToken provider = true → '.' ∉ rest) :
      Splits (provider ++ '.' :: rest) none provider rest
  | regional {region provider rest : List Char} (hregion : '.' ∉ region)
      (htoken : isRegionToken region = true) (hprovider : '.' ∉ provider) :
      Splits (region ++ '.' :: (provider ++ '.' :: rest)) (some region) provider rest

theorem Splits.split? {region : Option (List Char)} {provider : List Char}
    (h : Splits cs region provider rest) : split? cs = some (region, provider, rest) := by
  cases h with
  | plain hprovider htoken =>
    unfold ModelId.split?
    rw [splitFirst_append hprovider]
    dsimp only
    rcases splitFirst_cases '.' rest with ⟨front, rest', _, rfl, hsplit⟩ | ⟨_, hsplit⟩
    · have hnot : ¬isRegionToken provider = true := fun h => htoken h (by simp)
      rw [hsplit]
      exact if_neg hnot
    · rw [hsplit]
  | regional hregion htoken hprovider =>
    unfold ModelId.split?
    rw [splitFirst_append hregion]
    dsimp only
    rw [splitFirst_append hprovider]
    exact if_pos htoken

theorem splits_of_split? {region : Option (List Char)} {provider : List Char}
    (h : split? cs = some (region, provider, rest)) : Splits cs region provider rest := by
  unfold ModelId.split? at h
  rcases splitFirst_cases '.' cs with ⟨first, after, hfirst, rfl, hsplit⟩ | ⟨_, hsplit⟩
  · rw [hsplit] at h
    dsimp only at h
    rcases splitFirst_cases '.' after with ⟨second, after', hsecond, rfl, hsplit'⟩ | ⟨hdot, hsplit'⟩
    · rw [hsplit'] at h
      dsimp only at h
      split at h
      · rename_i htoken
        cases h
        exact .regional hfirst htoken hsecond
      · rename_i htoken
        cases h
        exact .plain hfirst fun h => absurd h htoken
    · rw [hsplit'] at h
      cases h
      exact .plain hfirst fun _ => hdot
  · rw [hsplit] at h
    cases h

/-- The identifier that a text stands for which falls into the given parts. -/
def ofParts (raw : String) (region : Option (List Char)) (provider rest : List Char) : ModelId where
  raw := raw
  provider := Text.lower (String.ofList provider)
  family := Text.lower (String.ofList (splitFirst ':' rest).1)
  version := (splitFirst ':' rest).2.map String.ofList
  region := region.map String.ofList

/-- A text is read as an identifier if it falls into parts with a provider and a rest. -/
theorem parse_eq_ok_iff {given : String} {id : ModelId} :
    parse given = .ok id ↔ ∃ region provider rest,
      Splits (Text.strip given).toList region provider rest ∧ provider ≠ [] ∧ rest ≠ [] ∧
        id = ofParts (Text.strip given) region provider rest := by
  unfold parse
  dsimp only
  constructor
  · intro h
    split at h
    · cases h
    · rename_i region provider rest hsplit
      split at h
      · cases h
      · rename_i hparts
        simp only [Bool.or_eq_true, List.isEmpty_iff, not_or] at hparts
        exact ⟨region, provider, rest, splits_of_split? hsplit, hparts.1, hparts.2,
          (Except.ok.inj h).symm⟩
  · rintro ⟨region, provider, rest, hsplits, hprovider, hrest, rfl⟩
    have hparts : ¬(provider.isEmpty || rest.isEmpty) = true := by
      simp only [Bool.or_eq_true, List.isEmpty_iff, not_or]
      exact ⟨hprovider, hrest⟩
    rw [hsplits.split?]
    exact if_neg hparts

theorem raw_of_parse {given : String} {id : ModelId} (h : parse given = .ok id) :
    id.raw = Text.strip given := by
  obtain ⟨region, provider, rest, _, _, _, rfl⟩ := parse_eq_ok_iff.mp h
  rfl

end ModelId
end ModelGateway
