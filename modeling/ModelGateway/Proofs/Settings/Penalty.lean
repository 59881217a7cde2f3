import ModelGateway.Proofs.Chat.Format
import ModelGateway.Proofs.Settings.Record

/-!
# Penalties and their scales

A Jurassic request carries a penalty when the settings give one that mentions a scale. What it carries
are the documented fields, each as given, without those that are null. The scale is one of them, so a
scale that is mentioned but null lets the penalty go out without one; any other penalty goes out with
its scale or not at all.
-/
namespace ModelGateway

namespace Jurassic

/-- The keys of penalties, in settings and in requests. -/
def penaltyNames : List String := ["countPenalty", "presencePenalty", "frequencyPenalty"]

/-- That a penalty carries the documented fields of a given one, those that are not null. -/
structure Carries (given sent : Object) : Prop where
  keys_nodup : (sent.map Prod.fst).Nodup
  value?_iff : ∀ key v, Object.value? sent key = some v ↔
    key ∈ penaltyKeys ∧ Object.value? given key = some v ∧ v ≠ .null

/-- That a request has, under the key of a penalty, what the settings give for it. -/
structure Conveys (settings : Settings) (key : String) (found : Option Value) : Prop where
  sent_iff : found.isSome = true ↔
    ∃ given, settings.given? key = some (.object given) ∧ Object.holds given "scale" = true
  carries : ∀ v, found = some v → ∃ given sent, settings.given? key = some (.object given) ∧
    v = .object sent ∧ Carries given sent
  /-- Only a null scale is left out of a penalty that is sent. -/
  scale : ∀ given sent, settings.given? key = some (.object given) → found = some (.object sent) →
    (Object.value? given "scale" = some .null ∧ Object.value? sent "scale" = none) ∨
      ∃ scale, scale ≠ .null ∧ Object.value? given "scale" = some scale ∧
        Object.value? sent "scale" = some scale

/-- The documented fields of a penalty that are not null. -/
def documented (given : Object) : Object :=
  Object.dropNull (penaltyKeys.map fun key => (key, Object.value given key))

theorem carries_documented (given : Object) : Carries given (documented given) := by
  constructor
  · exact Object.dropNull_keys_nodup (show penaltyKeys.Nodup by decide)
  · intro key v
    rw [documented, Object.value?_dropNull_map]
    constructor
    · intro h
      split at h
      · rename_i hkey
        obtain rfl := Option.some.inj h
        have hnull := Value.isNull_eq_false_iff.mp hkey.2
        exact ⟨hkey.1, Object.value?_of_value rfl hnull, hnull⟩
      · cases h
    · rintro ⟨hkey, hgiven, hnull⟩
      have hvalue : Object.value given key = v := by
        rw [Object.value, hgiven]
        rfl
      rw [hvalue, if_pos ⟨hkey, Value.isNull_eq_false_iff.mpr hnull⟩]

theorem Carries.scale {given sent : Object} (h : Carries given sent)
    (hheld : Object.holds given "scale" = true) :
    (Object.value? given "scale" = some .null ∧ Object.value? sent "scale" = none) ∨
      ∃ scale, scale ≠ .null ∧ Object.value? given "scale" = some scale ∧
        Object.value? sent "scale" = some scale := by
  obtain ⟨scale, hscale⟩ := Option.isSome_iff_exists.mp hheld
  by_cases hnull : scale = .null
  · refine .inl ⟨hnull ▸ hscale, Option.eq_none_iff_forall_ne_some.mpr fun v hv => ?_⟩
    obtain ⟨_, hgiven, hv⟩ := (h.value?_iff "scale" v).mp hv
    exact hv (Option.some.inj (hgiven.symm.trans (hnull ▸ hscale)))
  · exact .inr ⟨scale, hnull, hscale, (h.value?_iff "scale" scale).mpr ⟨by decide, hscale, hnull⟩⟩

theorem penalty_of_scale {given : Object} (h : Object.holds given "scale" = true) :
    penalty (.object given) = .object (documented given) := if_pos h

theorem penalty_of_no_scale {given : Object} (h : ¬ Object.holds given "scale" = true) :
    penalty (.object given) = .null := if_neg h

/-- A penalty that a field holds is conveyed, once the nulls of the request are dropped. -/
theorem conveys_of_holds {field : Field} {settings : Settings} {w : Value}
    (hkind : field.kind = .object) (hdefault : field.default = .null)
    (h : field.Holds settings w) :
    Conveys settings field.key ((some (penalty w)).filter fun v => !v.isNull) := by
  have hnothing (hnone : ¬∃ given, settings.given? field.key = some (.object given) ∧
      Object.holds given "scale" = true) : Conveys settings field.key none :=
    ⟨⟨nofun, fun hsome => absurd hsome hnone⟩, nofun, nofun⟩
  cases h with
  | given hgiven htaken =>
    rw [hkind] at htaken
    cases htaken with
    | object given =>
      by_cases hscale : Object.holds given "scale" = true
      · rw [penalty_of_scale hscale]
        refine ⟨⟨fun _ => ⟨given, hgiven, hscale⟩, fun _ => rfl⟩, ?_, ?_⟩
        · rintro v ⟨⟩
          exact ⟨given, _, hgiven, rfl, carries_documented given⟩
        · rintro given' sent hgiven' ⟨⟩
          obtain rfl : given = given' := by simpa using hgiven.symm.trans hgiven'
          exact (carries_documented given).scale hscale
      · rw [penalty_of_no_scale hscale]
        refine hnothing ?_
        rintro ⟨given', hgiven', hscale'⟩
        obtain rfl : given = given' := by simpa using hgiven.symm.trans hgiven'
        exact hscale hscale'
  | absent hgiven =>
    rw [hdefault]
    refine hnothing ?_
    rintro ⟨given, hgiven', _⟩
    cases hgiven.symm.trans hgiven'
  | passedOver hgiven hnot =>
    rw [hdefault]
    refine hnothing ?_
    rintro ⟨given, hgiven', _⟩
    refine hnot ?_
    rw [hkind, Option.some.inj (hgiven.symm.trans hgiven')]
    exact .inl ⟨_, .object given⟩

/-- The members of a request, before its nulls are dropped. -/
theorem of_textRequest {prompt : Value} {settings : Settings} {body : Object}
    (h : textRequest prompt settings = .ok body) :
    ∃ record members, schema.read settings = .ok record ∧ body = Object.dropNull members ∧
      (members.map Prod.fst).Nodup ∧
      ("countPenalty", penalty (Object.value record "count_penalty")) ∈ members ∧
      ("presencePenalty", penalty (Object.value record "presence_penalty")) ∈ members ∧
      ("frequencyPenalty", penalty (Object.value record "frequency_penalty")) ∈ members := by
  obtain ⟨record, hread, h⟩ := ok_of_bind_eq_ok h
  refine ⟨record, _, hread, (Except.ok.inj h).symm, ?_, ?_⟩
  · exact show ["prompt", "temperature", "topP", "maxTokens", "stopSequences", "countPenalty",
      "presencePenalty", "frequencyPenalty"].Nodup by decide
  · simp

/-- Every penalty of a request is the one that the settings give, in its documented fields; it has
the scale that is given, unless that is null. -/
theorem penalties_convey_settings (modelId : String) (prompt : Value) (settings : Settings)
    {body : Object} (h : adapter.textRequest modelId prompt settings = .ok body) :
    ∀ key ∈ penaltyNames, Conveys settings key (Object.value? body key) := by
  obtain ⟨record, members, hread, rfl, hkeys, hcount, hpresence, hfrequency⟩ :=
    of_textRequest (Fault.ok_of_ofConversion h)
  have hschema : schema.WellFormed := wellFormed_of_standard schema_standard
  have hconveys {name key : String} (hfield : Field.unset name key .object ∈ schema)
      (hmember : (key, penalty (Object.value record name)) ∈ members) :
      Conveys settings key (Object.value? (Object.dropNull members) key) := by
    rw [Object.value?_dropNull hkeys, Object.value?_of_mem hkeys hmember]
    exact conveys_of_holds rfl rfl (hschema.holds hread hfield)
  have hfields : ∀ field ∈ [Field.unset "count_penalty" "countPenalty" .object,
      .unset "presence_penalty" "presencePenalty" .object,
      .unset "frequency_penalty" "frequencyPenalty" .object], field ∈ schema := by
    simp [schema]
  simp only [List.forall_mem_cons] at hfields
  intro key hkey
  simp only [penaltyNames, List.mem_cons, List.not_mem_nil, or_false] at hkey
  rcases hkey with rfl | rfl | rfl
  · exact hconveys hfields.1 hcount
  · exact hconveys hfields.2.1 hpresence
  · exact hconveys hfields.2.2.1 hfrequency

/-- A penalty with an undocumented field and a null one, one without a scale, and one that is none. -/
def mixedPenalties : Settings :=
  some [("countPenalty", .object [("reason", .text "style"), ("applyToNumbers", .bool true),
      ("applyToEmojis", .null), ("scale", .int 0)]),
    ("presencePenalty", .object [("applyToEmojis", .bool true)]), ("frequencyPenalty", .int 2)]

theorem mixed_penalties_conveyed : ∃ body,
    adapter.textRequest "ai21.j2-mid-v1" (.text "Hi") mixedPenalties = .ok body ∧
    (∀ key ∈ penaltyNames, Conveys mixedPenalties key (Object.value? body key)) ∧
    Object.value? body "countPenalty" =
      some (.object [("scale", .int 0), ("applyToNumbers", .bool true)]) ∧
    Object.value? body "presencePenalty" = none ∧ Object.value? body "frequencyPenalty" = none :=
  ⟨_, rfl, penalties_convey_settings "ai21.j2-mid-v1" (.text "Hi") mixedPenalties rfl, rfl, rfl, rfl⟩

/-- A penalty whose scale is mentioned, but null. -/
def nullScale : Settings :=
  some [("countPenalty", .object [("scale", .null), ("applyToNumbers", .bool true)])]

/-- A penalty can go out without a scale. -/
theorem not_every_penalty_has_its_scale :
    (∃ body, adapter.textRequest "ai21.j2-mid-v1" (.text "Hi") nullScale = .ok body ∧
      Object.value? body "countPenalty" = some (.object [("applyToNumbers", .bool true)])) ∧
    ¬ ∀ modelId prompt settings body sent,
      adapter.textRequest modelId prompt settings = .ok body →
      Object.value? body "countPenalty" = some (.object sent) →
      ∃ scale, scale ≠ .null ∧ Object.value? sent "scale" = some scale := by
  have hbody : ∃ body, adapter.textRequest "ai21.j2-mid-v1" (.text "Hi") nullScale = .ok body ∧
      Object.value? body "countPenalty" = some (.object [("applyToNumbers", .bool true)]) :=
    ⟨_, rfl, rfl⟩
  refine ⟨hbody, fun hclaim => ?_⟩
  obtain ⟨body, hrequest, hsent⟩ := hbody
  obtain ⟨scale, _, hscale⟩ := hclaim _ _ _ _ _ hrequest hsent
  cases hscale

end Jurassic
end ModelGateway
