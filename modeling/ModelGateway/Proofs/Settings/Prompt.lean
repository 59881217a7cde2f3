import ModelGateway.Proofs.Settings.Range
import ModelGateway.Proofs.Settings.Unset

/-!
# The prompts of an image request

The prompts of a request are its description and, behind it, the further prompts that the settings
give. An item among these counts by its shape alone; one that does not count is passed over, and the
items around it are what they would be without it. The two shapes of a prompt give the same entry.
-/
namespace ModelGateway.StableDiffusion

/-! ## Single prompts -/

/-- That an item is a prompt, with its text and what it gives for a weight: an object with a text
under that key, or a pair of a text and anything. -/
inductive Offers : Value → String → Value → Prop where
  | object {o : Object} {text : String} (h : Object.value? o "text" = some (.text text)) :
      Offers (.object o) text (Object.value o "weight")
  | list (text : String) (weight : Value) : Offers (.list [.text text, weight]) text weight
  | tuple (text : String) (weight : Value) : Offers (.tuple [.text text, weight]) text weight

/-- The entry for a text: with a weight if what is given for it is a number, as a double, and else
without one. -/
inductive EntryOf (text : String) (weight : Value) : Object → Prop where
  | weighted {x : Binary64} (h : Kind.float.Takes weight (.float x)) :
      EntryOf text weight [("text", .text text), ("weight", .float x)]
  | unweighted (h : ¬Kind.float.Of weight) : EntryOf text weight [("text", .text text)]

section
variable {item weight w : Value} {text : String} {entry : Object}

theorem extraPrompt?_eq_some_iff :
    extraPrompt? item = some (text, weight) ↔ Offers item text weight := by
  constructor
  · intro h
    unfold extraPrompt? at h
    split at h
    · split at h
      · rename_i hvalue
        obtain ⟨rfl, rfl⟩ := Prod.mk.inj (Option.some.inj h)
        exact .object (Object.value?_of_value hvalue Value.noConfusion)
      · cases h
    · obtain ⟨rfl, rfl⟩ := Prod.mk.inj (Option.some.inj h)
      exact .list _ _
    · obtain ⟨rfl, rfl⟩ := Prod.mk.inj (Option.some.inj h)
      exact .tuple _ _
    · cases h
  · intro h
    cases h with
    | @object o text htext =>
      have hvalue : Object.value o "text" = .text text := by rw [Object.value, htext, Option.getD_some]
      simp only [extraPrompt?, hvalue]
    | list text weight => rfl
    | tuple text weight => rfl

theorem extraPrompt?_eq_none_iff :
    extraPrompt? item = none ↔ ¬∃ text weight, Offers item text weight := by
  rw [Option.eq_none_iff_forall_ne_some]
  constructor
  · rintro h ⟨text, weight, hoffers⟩
    exact h _ (extraPrompt?_eq_some_iff.mpr hoffers)
  · rintro h ⟨text, weight⟩ hsome
    exact h ⟨text, weight, extraPrompt?_eq_some_iff.mp hsome⟩

theorem promptWeight_of_of (h : Kind.float.Of weight) :
    promptWeight weight = Kind.float.convert weight := by
  rw [promptWeight, if_pos (Kind.accepts_of_of h)]
  rfl

theorem promptWeight_of_not (h : ¬Kind.float.Of weight) : promptWeight weight = .ok .null := by
  rw [promptWeight, if_neg]
  exact mt Kind.of_of_accepts h

theorem EntryOf.of_takes (h : Kind.float.Takes weight w) :
    EntryOf text weight (promptEntry (.text text) w) := by
  obtain ⟨x, rfl⟩ : ∃ x, w = .float x := h.holds
  exact .weighted h

/-- The entry of a prompt is made, unless its weight has no double. -/
theorem entry_eq_ok_iff :
    (promptWeight weight).map (promptEntry (.text text)) = .ok entry ↔ EntryOf text weight entry := by
  by_cases hof : Kind.float.Of weight
  · rw [promptWeight_of_of hof]
    constructor
    · intro h
      cases hw : Kind.float.convert weight with
      | error c =>
        rw [hw] at h
        cases h
      | ok w =>
        rw [hw] at h
        obtain rfl := Except.ok.inj h
        exact .of_takes (Kind.takes_of_convert (Kind.accepts_of_of hof) hw)
    · intro h
      cases h with
      | weighted htakes =>
        rw [htakes.convert]
        rfl
      | unweighted hnot => exact absurd hof hnot
  · rw [promptWeight_of_not hof]
    constructor
    · intro h
      obtain rfl := Except.ok.inj h
      exact .unweighted hof
    · intro h
      cases h with
      | weighted htakes => exact absurd (.inl ⟨_, htakes⟩) hof
      | unweighted _ => rfl

end

/-! ## Lists of prompts -/

/-- The entries that a list of items gives: one for each prompt, in order. -/
inductive Gives : List Value → List Object → Prop where
  | nil : Gives [] []
  | counted {item weight : Value} {text : String} {entry : Object} {items : List Value}
      {entries : List Object} (hitem : Offers item text weight) (hentry : EntryOf text weight entry)
      (hrest : Gives items entries) : Gives (item :: items) (entry :: entries)
  | skipped {item : Value} {items : List Value} {entries : List Object}
      (hitem : ¬∃ text weight, Offers item text weight) (hrest : Gives items entries) :
      Gives (item :: items) entries

theorem extraPrompts_skip {item : Value} (h : extraPrompt? item = none) (items : List Value) :
    extraPrompts (item :: items) = extraPrompts items := by
  rw [extraPrompts, List.filterMap_cons_none h, extraPrompts]

theorem extraPrompts_count {item weight : Value} {text : String}
    (h : extraPrompt? item = some (text, weight)) (items : List Value) :
    extraPrompts (item :: items) = (do
      let entry ← (promptWeight weight).map (promptEntry (.text text))
      let entries ← extraPrompts items
      return entry :: entries) := by
  rw [extraPrompts, List.filterMap_cons_some h, List.mapM_cons]
  dsimp only
  cases promptWeight weight with
  | error c => rfl
  | ok w => rfl

/-- Further prompts are made exactly as the items give them. -/
theorem extraPrompts_eq_ok_iff (items : List Value) (entries : List Object) :
    extraPrompts items = .ok entries ↔ Gives items entries := by
  induction items generalizing entries with
  | nil =>
    constructor
    · intro h
      obtain rfl := Except.ok.inj h
      exact .nil
    · rintro ⟨⟩
      rfl
  | cons item rest ih =>
    cases hitem : extraPrompt? item with
    | none =>
      have hnone := extraPrompt?_eq_none_iff.mp hitem
      rw [extraPrompts_skip hitem, ih]
      constructor
      · exact .skipped hnone
      · intro h
        cases h with
        | counted hoffers _ _ => exact absurd ⟨_, _, hoffers⟩ hnone
        | skipped _ hrest => exact hrest
    | some prompt =>
      obtain ⟨text, weight⟩ := prompt
      rw [extraPrompts_count hitem]
      constructor
      · intro h
        obtain ⟨entry, hentry, h⟩ := ok_of_bind_eq_ok h
        obtain ⟨others, hothers, h⟩ := ok_of_bind_eq_ok h
        obtain rfl := Except.ok.inj h
        exact .counted (extraPrompt?_eq_some_iff.mp hitem) (entry_eq_ok_iff.mp hentry)
          ((ih others).mp hothers)
      · intro h
        cases h with
        | counted hoffers hentry hrest =>
          -- An item is a prompt in one way only.
          obtain ⟨rfl, rfl⟩ := Prod.mk.inj (Option.some.inj
            (hitem.symm.trans (extraPrompt?_eq_some_iff.mpr hoffers)))
          rw [entry_eq_ok_iff.mpr hentry, (ih _).mpr hrest]
          rfl
        | skipped hnone _ => exact absurd ⟨_, _, extraPrompt?_eq_some_iff.mp hitem⟩ hnone

/-- Prompts of both shapes, next to items that are none. -/
example : extraPrompts [.text "fog", .object [("weight", .float 0.5), ("text", .text "mist")],
    .list [.text "sun"], .tuple [.text "rain", .bool true]] =
    .ok [[("text", .text "mist"), ("weight", .float 0.5)], [("text", .text "rain")]] := rfl

theorem extraPrompts_append (items more : List Value) :
    extraPrompts (items ++ more) = do
      return (← extraPrompts items) ++ (← extraPrompts more) := by
  unfold extraPrompts
  rw [List.filterMap_append, List.mapM_append]

/-- An object counts as the pair of its text and its weight would. -/
theorem extraPrompt?_object (o : Object) :
    extraPrompt? (.object o) = extraPrompt? (.list [Object.value o "text", Object.value o "weight"]) ∧
      extraPrompt? (.object o) =
        extraPrompt? (.tuple [Object.value o "text", Object.value o "weight"]) := by
  simp only [extraPrompt?]
  cases Object.value o "text" <;> exact ⟨rfl, rfl⟩

/-! ## Requests -/

/-- The entry of a description has the weight of the settings, if that is a number. -/
theorem entryOf_description {settings : Settings} {record : Object}
    (hread : schema.read settings = .ok record) (description : String) :
    EntryOf description ((settings.given? "weight").getD .null)
      (promptEntry (.text description) (Object.value record "weight")) := by
  have hschema : schema.WellFormed := wellFormed_of_standard schema_standard
  have hholds : (Field.unset "weight" "weight" .float).Holds settings (Object.value record "weight") :=
    hschema.holds hread (.head _)
  generalize Object.value record "weight" = w at hholds ⊢
  cases hholds with
  | given hgiven htaken =>
    rw [show settings.given? "weight" = _ from hgiven]
    exact .of_takes htaken
  | absent hgiven =>
    rw [show settings.given? "weight" = _ from hgiven]
    refine .unweighted ?_
    rintro (⟨_, ⟨⟩⟩ | ⟨_, _, ⟨⟩⟩)
  | passedOver hgiven hnot =>
    rw [show settings.given? "weight" = _ from hgiven]
    exact .unweighted hnot

/-- That the prompts of a body are the description and what the settings give, in this order. -/
def Prompts (description : String) (settings : Settings) (body : Object) : Prop :=
  ∃ first others,
    Object.value? body "text_prompts" = some (.list ((first :: others).map .object)) ∧
    EntryOf description ((settings.given? "weight").getD .null) first ∧
    Gives (givenPrompts settings) others

theorem prompts_of_imageRequest {description : String} {width height : Value} {settings : Settings}
    {body : Object} (h : imageRequest (.text description) width height settings = .ok body) :
    Prompts description settings body := by
  obtain ⟨record, hread, h⟩ := ok_of_bind_eq_ok h
  obtain ⟨items, hitems, h⟩ := ok_of_bind_eq_ok h
  obtain ⟨extras, hextras, h⟩ := ok_of_bind_eq_ok h
  obtain rfl := Except.ok.inj h
  obtain rfl := Except.ok.inj ((elements_text_prompts hread).symm.trans hitems)
  exact ⟨_, extras, rfl, entryOf_description hread description,
    (extraPrompts_eq_ok_iff _ _).mp hextras⟩

/-- That an integer that has no double stands where the settings give a double: in one of the two
fields that hold one, or as the weight of a prompt. -/
inductive Oversized (settings : Settings) : Prop where
  | setting {key : String} {n : Int} (hkey : key ∈ ["weight", "cfg_scale"])
      (hgiven : settings.given? key = some (.int n)) (hn : Binary64.ofInt? n = none)
  | prompt {item : Value} {text : String} {n : Int} (hitem : item ∈ givenPrompts settings)
      (hoffers : Offers item text (.int n)) (hn : Binary64.ofInt? n = none)

section
variable {settings : Settings}

theorem sizeFault?_eq_some_iff {v : Value} {c : Conversion} :
    v.sizeFault? = some c ↔ c = .numberTooLarge ∧ ∃ n, v = .int n ∧ Binary64.ofInt? n = none := by
  constructor
  · intro h
    unfold Value.sizeFault? at h
    split at h
    · rename_i n
      split at h
      · cases h
      · rename_i hlarge
        exact ⟨(Option.some.inj h).symm, n, rfl,
          (Binary64.ofInt?_eq_none_iff n).mpr (Nat.le_of_not_lt hlarge)⟩
    · cases h
  · rintro ⟨rfl, n, rfl, hn⟩
    have hlarge := (Binary64.ofInt?_eq_none_iff n).mp hn
    rw [Value.sizeFault?, if_neg (Nat.not_lt.mpr hlarge)]

variable (settings) in
theorem sizeFault?_schema : schema.sizeFault? settings =
    ["weight", "cfg_scale"].findSome? fun key => (settings.given? key).bind Value.sizeFault? := by
  simp [Schema.sizeFault?, Field.sizeFault?, schema, Field.unset, Settings.given?, List.findSome?_cons]

theorem oversized_of_fault {c : Conversion}
    (h : (schema.sizeFault? settings).or (weightFault? settings) = some c) :
    c = .numberTooLarge ∧ Oversized settings := by
  rcases Option.or_eq_some_iff.mp h with hsetting | ⟨_, hprompt⟩
  · rw [sizeFault?_schema] at hsetting
    obtain ⟨key, hkey, hfault⟩ := List.exists_of_findSome?_eq_some hsetting
    obtain ⟨v, hgiven, hfault⟩ := Option.bind_eq_some_iff.mp hfault
    obtain ⟨rfl, n, rfl, hn⟩ := sizeFault?_eq_some_iff.mp hfault
    exact ⟨rfl, .setting hkey hgiven hn⟩
  · obtain ⟨⟨text, weight⟩, hmem, hfault⟩ := List.exists_of_findSome?_eq_some hprompt
    obtain ⟨item, hitem, hoffers⟩ := List.mem_filterMap.mp hmem
    obtain ⟨rfl, n, rfl, hn⟩ := sizeFault?_eq_some_iff.mp hfault
    exact ⟨rfl, .prompt hitem (extraPrompt?_eq_some_iff.mp hoffers) hn⟩

theorem not_oversized_of_fault
    (h : (schema.sizeFault? settings).or (weightFault? settings) = none) : ¬Oversized settings := by
  obtain ⟨hsetting, hprompt⟩ := Option.or_eq_none_iff.mp h
  rw [sizeFault?_schema] at hsetting
  have hfault : ∀ n, Binary64.ofInt? n = none → (Value.int n).sizeFault? ≠ none := by
    intro n hn
    rw [sizeFault?_eq_some_iff.mpr ⟨rfl, n, rfl, hn⟩]
    exact Option.some_ne_none _
  rintro (⟨hkey, hgiven, hn⟩ | ⟨hitem, hoffers, hn⟩)
  · have hnone := List.findSome?_eq_none_iff.mp hsetting _ hkey
    rw [hgiven, Option.bind_some] at hnone
    exact hfault _ hn hnone
  · have hmem := List.mem_filterMap.mpr ⟨_, hitem, extraPrompt?_eq_some_iff.mpr hoffers⟩
    have hnone := List.findSome?_eq_none_iff.mp hprompt _ hmem
    dsimp only at hnone
    exact hfault _ hn hnone

end

/-- A request fails for an integer in its settings that has no double, and only for that. Otherwise its
prompts are the description, with the weight of the settings, and behind it what the settings' items
give: an entry for each prompt among them, in order. An object among the items counts as the pair of
its text and its weight would, wherever it stands, and what a list of items gives is put together from
what its parts give. -/
theorem prompts_in_order (modelId description : String) (width height : Value)
    (settings : Settings) :
    (Oversized settings ∧ adapter.imageRequest modelId (.text description) width height settings =
        .error (.conversion .numberTooLarge) ∨
      ¬Oversized settings ∧ ∃ body,
        adapter.imageRequest modelId (.text description) width height settings = .ok body ∧
        Prompts description settings body) ∧
    (∀ items entries, extraPrompts items = .ok entries ↔ Gives items entries) ∧
    (∀ before o after,
      let pair := [Object.value o "text", Object.value o "weight"]
      extraPrompts (before ++ .object o :: after) = extraPrompts (before ++ .list pair :: after) ∧
        extraPrompts (before ++ .object o :: after) =
          extraPrompts (before ++ .tuple pair :: after)) ∧
    ∀ items more, extraPrompts (items ++ more) = do
      return (← extraPrompts items) ++ (← extraPrompts more) := by
  refine ⟨?_, extraPrompts_eq_ok_iff, ?_, extraPrompts_append⟩
  · have hfails := imageRequest_failsFor (.text description) width height settings
    have hrequest : adapter.imageRequest modelId (.text description) width height settings =
      Fault.ofConversion (imageRequest (.text description) width height settings) := rfl
    rw [hrequest]
    cases hwhy : (schema.sizeFault? settings).or (weightFault? settings) with
    | some c =>
      rw [hwhy] at hfails
      have herror : imageRequest (.text description) width height settings = .error c := hfails
      obtain ⟨rfl, hsize⟩ := oversized_of_fault hwhy
      rw [herror]
      exact .inl ⟨hsize, rfl⟩
    | none =>
      rw [hwhy] at hfails
      obtain ⟨body, hbody⟩ := hfails
      rw [hbody]
      exact .inr ⟨not_oversized_of_fault hwhy, body, rfl, prompts_of_imageRequest hbody⟩
  · intro before o after
    obtain ⟨hlist, htuple⟩ := extraPrompt?_object o
    constructor
    · rw [extraPrompts, extraPrompts, List.filterMap_append, List.filterMap_append,
        List.filterMap_cons, List.filterMap_cons, hlist]
    · rw [extraPrompts, extraPrompts, List.filterMap_append, List.filterMap_append,
        List.filterMap_cons, List.filterMap_cons, htuple]

end ModelGateway.StableDiffusion
