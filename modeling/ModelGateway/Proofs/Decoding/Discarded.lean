import ModelGateway.Proofs.Chat.Format
import ModelGateway.Proofs.Run

/-!
# What completions leave out

Titan gives several candidates for a completion. Only the first is kept, and its metadata say how many
others there were, if there were any. No other standard adapter says anything in the metadata.
-/
namespace ModelGateway

theorem Body.of_decodeWith {α : Type} {f : Object → Except Conversion α} {body : Body}
    {strict : Bool} {a : α} (h : body.decodeWith f strict = .ok a) :
    ∃ o, body.object strict = .ok o ∧ f o = .ok a := by
  obtain ⟨o, ho, hdecoded⟩ := ok_of_bind_eq_ok h
  refine ⟨o, ho, ?_⟩
  cases hf : f o with
  | error e =>
    rw [hf] at hdecoded
    cases hdecoded
  | ok b =>
    rw [hf] at hdecoded
    exact congrArg _ (Except.ok.inj hdecoded)

/-! ## Adapters without metadata -/

/-- That completions come without metadata. -/
def Adapter.Plain (a : Adapter) : Prop :=
  ∀ modelId body strict completions, a.completions modelId body strict = .ok completions →
    ∀ completion ∈ completions, completion.metadata = []

namespace Adapter

variable {a : Adapter}

theorem plain_of_none (h : a.completions? = none) : a.Plain := by
  intro modelId body strict given hgiven
  unfold completions at hgiven
  rw [h] at hgiven
  cases hgiven

theorem plain_of_decodeWith {f : String → Object → Except Conversion (List Completion)}
    (h : a.completions? = some fun modelId => Body.decodeWith (f modelId))
    (hplain : ∀ modelId o given, f modelId o = .ok given →
      ∀ completion ∈ given, completion.metadata = []) : a.Plain := by
  intro modelId body strict given hgiven
  unfold completions at hgiven
  rw [h] at hgiven
  obtain ⟨o, _, ho⟩ := Body.of_decodeWith hgiven
  exact hplain modelId o given ho

/-- Where each completion is read off one object under a key, none of them has metadata. -/
theorem plain_of_filterMap (key : String) (completion? : String → Object → Option Completion)
    (h : a.completions? = some fun modelId => Body.decodeWith fun o => do
      return (← (Object.value o key).elementObjects).filterMap (completion? modelId))
    (hplain : ∀ modelId o completion, completion? modelId o = some completion →
      completion.metadata = []) : a.Plain := by
  refine plain_of_decodeWith h ?_
  intro modelId o given hgiven completion hmem
  obtain ⟨objects, _, hobjects⟩ := ok_of_bind_eq_ok hgiven
  obtain rfl := Except.ok.inj hobjects
  obtain ⟨object, _, hobject⟩ := List.mem_filterMap.mp hmem
  exact hplain modelId object completion hobject

end Adapter

theorem Claude.plain : adapter.Plain := by
  refine Adapter.plain_of_decodeWith (f := completions) rfl ?_
  intro modelId o given h completion hmem
  unfold completions at h
  split at h
  · obtain rfl := Except.ok.inj h
    rw [List.mem_singleton.mp hmem]
  · obtain ⟨blocks, _, hblocks⟩ := ok_of_bind_eq_ok h
    dsimp only at hblocks
    split at hblocks
    · obtain rfl := Except.ok.inj hblocks
      cases hmem
    · obtain rfl := Except.ok.inj hblocks
      rw [List.mem_singleton.mp hmem]

theorem CommandR.plain : adapter.Plain := by
  refine Adapter.plain_of_decodeWith (f := fun modelId o => .ok (completions modelId o)) rfl ?_
  rintro modelId o _ ⟨⟩ completion hmem
  unfold completions at hmem
  split at hmem
  · rw [List.mem_singleton.mp hmem]
  · cases hmem

theorem Llama.plain : adapter.Plain := by
  refine Adapter.plain_of_decodeWith (f := fun modelId o => .ok (completions modelId o)) rfl ?_
  rintro modelId o _ ⟨⟩ completion hmem
  unfold completions at hmem
  split at hmem
  · rw [List.mem_singleton.mp hmem]
  · cases hmem

theorem Mistral.plain : adapter.Plain := by
  refine Adapter.plain_of_filterMap "outputs" completion? rfl ?_
  intro modelId o completion h
  obtain ⟨_, _, rfl⟩ := Option.map_eq_some_iff.mp h
  rfl

theorem Jamba.plain : adapter.Plain := by
  refine Adapter.plain_of_filterMap "choices" completion? rfl ?_
  intro modelId o completion h
  obtain ⟨_, _, rfl⟩ := Option.map_eq_some_iff.mp h
  rfl

theorem Jurassic.plain : adapter.Plain := by
  refine Adapter.plain_of_filterMap "completions" completion? rfl ?_
  intro modelId o completion h
  obtain ⟨_, _, rfl⟩ := Option.map_eq_some_iff.mp h
  rfl

/-- Of the standard adapters, Titan's alone gives metadata. -/
theorem Adapter.plain_of_standard {a : Adapter} (h : a ∈ standardRoutes.map Route.adapter)
    (hname : a.name ≠ Titan.adapter.name) : a.Plain := by
  rcases cases_of_standard h with ⟨f, rfl⟩ | rfl | rfl | rfl
  · cases f with
    | titan => exact absurd rfl hname
    | claude => exact Claude.plain
    | commandR => exact CommandR.plain
    | llama => exact Llama.plain
    | mistral => exact Mistral.plain
    | jamba => exact Jamba.plain
  · exact Jurassic.plain
  · exact plain_of_none rfl
  · exact plain_of_none rfl

theorem Adapter.eq_titan_of_name {a : Adapter} (h : a ∈ standardRoutes.map Route.adapter)
    (hname : a.name = Titan.adapter.name) : a = Titan.adapter := by
  rcases cases_of_standard h with ⟨f, rfl⟩ | rfl | rfl | rfl
  · cases f with
    | titan => rfl
    | _ => exact absurd hname (by decide)
  all_goals exact absurd hname (by decide)

/-! ## Titan -/

namespace Titan

/-- How many candidates a response of Titan holds, if it can be decoded. -/
def candidates (body : Body) (strict : Bool) : Nat :=
  match body.decodeWith (fun o => (Object.value o "results").elementObjects) strict with
  | .ok candidates => candidates.length
  | .error _ => 0

theorem candidates_eq {body : Body} {strict : Bool} {o : Object} {objects : List Object}
    (ho : body.object strict = .ok o)
    (hobjects : (Object.value o "results").elementObjects = .ok objects) :
    candidates body strict = objects.length := by
  have hdecode : body.decodeWith (fun o => (Object.value o "results").elementObjects) strict =
      .ok objects := by
    unfold Body.decodeWith
    rw [ho]
    exact congrArg Fault.ofConversion hobjects
  rw [candidates, hdecode]

/-- A completion says how many candidates are left out, unless none is; without a candidate there is
no completion. -/
theorem discarded_of_completions {modelId : String} {body : Body} {strict : Bool}
    {given : List Completion} (h : adapter.completions modelId body strict = .ok given) :
    (candidates body strict = 0 ∧ given = []) ∨
      ∃ completion, given = [completion] ∧
        Object.value completion.metadata "discarded_candidates" =
          if 1 < candidates body strict then .int (candidates body strict - 1 : Nat) else .null := by
  obtain ⟨o, ho, hgiven⟩ := Body.of_decodeWith (f := completions modelId) h
  obtain ⟨objects, hobjects, hread⟩ := ok_of_bind_eq_ok hgiven
  rw [candidates_eq ho hobjects]
  cases objects with
  | nil => exact .inl ⟨rfl, (Except.ok.inj hread).symm⟩
  | cons first others =>
    refine .inr ⟨_, (Except.ok.inj hread).symm, ?_⟩
    cases others with
    | nil =>
      dsimp only
      cases Object.value? o "inputTextTokenCount" with
      | none => rfl
      | some count => rfl
    | cons second others => exact (if_pos (Nat.lt_add_left _ Nat.one_lt_two)).symm

end Titan
end ModelGateway
