import ModelGateway.Family.Claude
import ModelGateway.Family.CommandR
import ModelGateway.Family.Jamba
import ModelGateway.Family.Jurassic
import ModelGateway.Family.Llama
import ModelGateway.Family.Mistral
import ModelGateway.Family.StableDiffusion
import ModelGateway.Family.Titan
import ModelGateway.Proofs.Settings

/-!
# What decides a field of a record

A field holds what the settings give under its key if that is of the field's kind, and its default
otherwise. Integers become doubles where doubles are wanted and tuples become lists; all else is held
as it was given. What stands under other keys makes no difference.
-/
namespace ModelGateway

/-- What settings give under a key. -/
def Settings.given? (settings : Settings) (key : String) : Option Value :=
  settings.bind fun o => Object.value? o key

namespace Kind

/-- What a value of a kind is held as. -/
inductive Takes : Kind → Value → Value → Prop where
  | float (x : Binary64) : Takes .float (.float x) (.float x)
  | widened {n : Int} {x : Binary64} (h : Binary64.ofInt? n = some x) :
      Takes .float (.int n) (.float x)
  | int (n : Int) : Takes .int (.int n) (.int n)
  | text (s : String) : Takes .text (.text s) (.text s)
  | bool (b : Bool) : Takes .bool (.bool b) (.bool b)
  | texts {v : Value} {items : List Value} (h : v.items? = some items)
      (htexts : ∀ item ∈ items, ∃ s, item = .text s) : Takes .textList v (.list items)
  | items {v : Value} {items : List Value} (h : v.items? = some items) : Takes .list v (.list items)
  | object (o : Object) : Takes .object (.object o) (.object o)
  | any {v : Value} (hnull : v ≠ .null) (hitems : v.items? = none) : Takes .any v v
  | anyItems {v : Value} {items : List Value} (h : v.items? = some items) : Takes .any v (.list items)

/-- That a value is of a kind. An integer of any size may stand for a double, though the largest have
none. -/
def Of (kind : Kind) (v : Value) : Prop :=
  (∃ w, kind.Takes v w) ∨ (kind = .float ∧ ∃ n, v = .int n)

/-- What may be held by a field of a kind. -/
def Holds : Kind → Value → Prop
  | float, w => ∃ x, w = .float x
  | int, w => ∃ n, w = .int n
  | text, w => ∃ s, w = .text s
  | bool, w => ∃ b, w = .bool b
  | textList, w => ∃ items, w = .list items ∧ ∀ item ∈ items, ∃ s, item = .text s
  | list, w => ∃ items, w = .list items
  | object, w => ∃ o, w = .object o
  | any, w => w ≠ .null

variable {kind : Kind} {v w : Value}

theorem Takes.holds (h : kind.Takes v w) : kind.Holds w := by
  cases h with
  | float x | widened _ => exact ⟨_, rfl⟩
  | int n => exact ⟨n, rfl⟩
  | text s => exact ⟨s, rfl⟩
  | bool b => exact ⟨b, rfl⟩
  | texts _ htexts => exact ⟨_, rfl, htexts⟩
  | items _ => exact ⟨_, rfl⟩
  | object o => exact ⟨o, rfl⟩
  | any hnull _ => exact hnull
  | anyItems _ => exact nofun

theorem Takes.ne_null (h : kind.Takes v w) : w ≠ .null := by
  cases h with
  | any hnull _ => exact hnull
  | _ => exact nofun

theorem all_isText_iff {items : List Value} :
    items.all Value.isText = true ↔ ∀ item ∈ items, ∃ s, item = .text s := by
  rw [List.all_eq_true]
  refine forall₂_congr fun item _ => ?_
  cases item <;> simp [Value.isText]

theorem items?_eq_some {items : List Value} (h : v.items? = some items) :
    v = .list items ∨ v = .tuple items := by
  cases v with
  | list _ => exact .inl (congrArg _ (Option.some.inj h))
  | tuple _ => exact .inr (congrArg _ (Option.some.inj h))
  | _ => cases h

theorem Takes.accepts (h : kind.Takes v w) : kind.accepts v = true := by
  cases h with
  | texts hitems htexts =>
    rcases items?_eq_some hitems with rfl | rfl
    · exact all_isText_iff.mpr htexts
    · exact all_isText_iff.mpr htexts
  | items hitems | anyItems hitems =>
    rcases items?_eq_some hitems with rfl | rfl
    · rfl
    · rfl
  | any hnull _ =>
    cases v with
    | null => exact absurd rfl hnull
    | _ => rfl
  | _ => rfl

theorem accepts_of_of (h : kind.Of v) : kind.accepts v = true := by
  rcases h with ⟨w, hw⟩ | ⟨rfl, n, rfl⟩
  · exact hw.accepts
  · rfl

/-- What is accepted is held as the kind says, once it is converted. -/
theorem takes_of_convert (h : kind.accepts v = true) (hconvert : kind.convert v = .ok w) :
    kind.Takes v w := by
  -- Each kind accepts values of a few shapes; for all other shapes the acceptance is false.
  cases kind with
  | float =>
    cases v with
    | float x => exact Except.ok.inj hconvert ▸ .float x
    | int n =>
      rw [convert, Value.toFloat, Value.floatOfInt] at hconvert
      cases hn : Binary64.ofInt? n with
      | none =>
        rw [hn] at hconvert
        cases hconvert
      | some x =>
        rw [hn] at hconvert
        exact Except.ok.inj hconvert ▸ .widened hn
    | _ => cases h
  | textList =>
    cases v with
    | list items | tuple items =>
      exact Except.ok.inj hconvert ▸ .texts rfl (all_isText_iff.mp h)
    | _ => cases h
  | list =>
    cases v with
    | list items | tuple items => exact Except.ok.inj hconvert ▸ .items rfl
    | _ => cases h
  | any =>
    have hnull : v ≠ .null := by
      rintro rfl
      cases h
    cases v with
    | list items | tuple items => exact Except.ok.inj hconvert ▸ .anyItems rfl
    | _ => exact Except.ok.inj hconvert ▸ .any hnull rfl
  | int =>
    cases v with
    | int n => exact Except.ok.inj hconvert ▸ .int n
    | _ => cases h
  | text =>
    cases v with
    | text s => exact Except.ok.inj hconvert ▸ .text s
    | _ => cases h
  | bool =>
    cases v with
    | bool b => exact Except.ok.inj hconvert ▸ .bool b
    | _ => cases h
  | object =>
    cases v with
    | object o => exact Except.ok.inj hconvert ▸ .object o
    | _ => cases h

/-- Only an integer as a double may be of a kind and yet not be held. -/
theorem of_of_accepts (h : kind.accepts v = true) : kind.Of v := by
  by_cases hfloat : kind = .float
  · subst hfloat
    cases v with
    | int n => exact .inr ⟨rfl, n, rfl⟩
    | float x => exact .inl ⟨_, .float x⟩
    | _ => cases h
  · obtain ⟨w, hw⟩ : ∃ w, kind.convert v = .ok w := by
      cases kind with
      | float => exact absurd rfl hfloat
      | _ => cases v <;> exact ⟨_, rfl⟩
    exact .inl ⟨w, takes_of_convert h hw⟩

end Kind

namespace Field

/-- What a field holds: what is given under its key, if that is of its kind, else its default. -/
inductive Holds (field : Field) (settings : Settings) : Value → Prop where
  | given {v w : Value} (hgiven : settings.given? field.key = some v) (htaken : field.kind.Takes v w) :
      Holds field settings w
  | absent (hgiven : settings.given? field.key = none) : Holds field settings field.default
  | passedOver {v : Value} (hgiven : settings.given? field.key = some v) (hnot : ¬field.kind.Of v) :
      Holds field settings field.default

variable {field : Field} {settings settings' : Settings} {w : Value}

theorem holds_of_read (hkey : field.key ≠ "") (h : field.read settings = .ok w) :
    field.Holds settings w := by
  rw [read, if_neg hkey, Settings.resolve] at h
  cases hgiven : settings.given? field.key with
  | none =>
    rw [Settings.given?] at hgiven
    rw [hgiven] at h
    obtain rfl := Except.ok.inj h
    exact .absent hgiven
  | some v =>
    rw [Settings.given?] at hgiven
    rw [hgiven] at h
    dsimp only at h
    cases haccepts : field.kind.accepts v with
    | true =>
      rw [haccepts, if_pos rfl] at h
      exact .given hgiven (Kind.takes_of_convert haccepts h)
    | false =>
      rw [haccepts, if_neg Bool.false_ne_true] at h
      obtain rfl := Except.ok.inj h
      refine .passedOver hgiven fun hof => ?_
      rw [Kind.accepts_of_of hof] at haccepts
      cases haccepts

theorem read_congr (h : settings.given? field.key = settings'.given? field.key) :
    field.read settings = field.read settings' := by
  unfold Settings.given? at h
  rw [read, read, Settings.resolve, Settings.resolve, h]

/-- A field holds a value of its kind, unless it is unset and nothing of its kind is given. -/
theorem Holds.typed (hdefault : field.default = .null ∨ field.kind.Holds field.default)
    (h : field.Holds settings w) : (w = .null ∧ field.default = .null) ∨ field.kind.Holds w := by
  cases h with
  | given _ htaken => exact .inr htaken.holds
  | absent _ | passedOver _ _ =>
    rcases hdefault with hnull | hholds
    · exact .inl ⟨hnull, hnull⟩
    · exact .inr hholds

end Field

namespace Schema

/-- Each field has a name of its own, a key, and a default that is unset or of its kind. -/
structure WellFormed (schema : Schema) : Prop where
  names_nodup : (schema.map Field.name).Nodup
  key_ne_empty : ∀ field ∈ schema, field.key ≠ ""
  default_typed : ∀ field ∈ schema, field.default = .null ∨ field.kind.Holds field.default

/-- The records of a schema are decided field by field, by what is given under the field's key. -/
structure Faithful (schema : Schema) : Prop where
  names : ∀ {settings record}, schema.read settings = .ok record →
    record.map Prod.fst = schema.map Field.name
  holds : ∀ {settings record field}, schema.read settings = .ok record → field ∈ schema →
    field.Holds settings (Object.value record field.name)
  typed : ∀ {settings record field}, schema.read settings = .ok record → field ∈ schema →
    (Object.value record field.name = .null ∧ field.default = .null) ∨
      field.kind.Holds (Object.value record field.name)
  /-- Settings that agree on a field's key give the same field. -/
  by_key : ∀ {settings settings' record record' field}, schema.read settings = .ok record →
    schema.read settings' = .ok record' → field ∈ schema →
    settings.given? field.key = settings'.given? field.key →
    Object.value record field.name = Object.value record' field.name
  /-- Keys that no field declares have no effect. -/
  undeclared : ∀ {settings settings' : Settings},
    (∀ field ∈ schema, settings.given? field.key = settings'.given? field.key) →
    schema.read settings = schema.read settings'

variable {schema : Schema} {settings settings' : Settings} {record : Object} {field : Field}

theorem names_of_read (h : schema.read settings = .ok record) :
    record.map Prod.fst = schema.map Field.name := by
  induction schema generalizing record with
  | nil =>
    obtain rfl := Except.ok.inj h
    rfl
  | cons first rest ih =>
    obtain ⟨v, others, _, hothers, rfl⟩ := read_cons_eq_ok h
    rw [List.map_cons, List.map_cons, ih hothers]

theorem find?_name (hnames : (schema.map Field.name).Nodup) (hfield : field ∈ schema) :
    schema.find? (fun other => other.name == field.name) = some field := by
  induction schema with
  | nil => cases hfield
  | cons first rest ih =>
    obtain ⟨hfresh, hrest⟩ := List.nodup_cons.mp hnames
    rcases List.mem_cons.mp hfield with rfl | hfield
    · exact List.find?_cons_of_pos (beq_self_eq_true _)
    · have hne : (first.name == field.name) = false := by
        rw [beq_eq_false_iff_ne]
        intro heq
        exact hfresh (heq ▸ List.mem_map_of_mem hfield)
      rw [List.find?_cons, hne]
      exact ih hrest hfield

/-- Where no two fields have the same name, a record holds what each of them reads. -/
theorem WellFormed.read_field (hschema : schema.WellFormed) (h : schema.read settings = .ok record)
    (hfield : field ∈ schema) : field.read settings = .ok (Object.value record field.name) :=
  field_read h field.name (find?_name hschema.names_nodup hfield)

theorem WellFormed.holds (hschema : schema.WellFormed) (h : schema.read settings = .ok record)
    (hfield : field ∈ schema) : field.Holds settings (Object.value record field.name) :=
  Field.holds_of_read (hschema.key_ne_empty field hfield) (hschema.read_field h hfield)

theorem read_congr (h : ∀ field ∈ schema, field.read settings = field.read settings') :
    schema.read settings = schema.read settings' := by
  induction schema with
  | nil => rfl
  | cons first rest ih =>
    obtain ⟨hfirst, hrest⟩ := List.forall_mem_cons.mp h
    rw [read, read, hfirst, ih hrest]

theorem WellFormed.faithful (hschema : schema.WellFormed) : schema.Faithful := by
  constructor
  · intro settings record h
    exact names_of_read h
  · intro settings record field h hfield
    exact hschema.holds h hfield
  · intro settings record field h hfield
    exact (hschema.holds h hfield).typed (hschema.default_typed field hfield)
  · intro settings settings' record record' field h h' hfield hgiven
    have hread := hschema.read_field h hfield
    rw [Field.read_congr hgiven, hschema.read_field h' hfield] at hread
    exact (Except.ok.inj hread).symm
  · intro settings settings' hgiven
    exact read_congr fun field hfield => Field.read_congr (hgiven field hfield)

end Schema

/-- The schemas of the standard adapters. -/
def standardSchemas : List Schema :=
  [Titan.schema, Claude.schema, CommandR.schema, Llama.schema, Mistral.schema, Jamba.schema,
   Jurassic.schema, StableDiffusion.schema]

theorem Jurassic.schema_standard : schema ∈ standardSchemas := by simp [standardSchemas]

theorem StableDiffusion.schema_standard : schema ∈ standardSchemas := by simp [standardSchemas]

theorem standardSchemas_named : standardSchemas.all (fun schema =>
    decide (schema.map Field.name).Nodup && schema.all fun field => field.key != "") = true := by
  decide +kernel

theorem standardSchemas_defaults : ∀ schema ∈ standardSchemas, ∀ field ∈ schema,
    field.default = .null ∨ field.kind.Holds field.default := by
  simp [standardSchemas, Titan.schema, Claude.schema, CommandR.schema, Llama.schema, Mistral.schema,
    Jamba.schema, Jurassic.schema, StableDiffusion.schema, Field.inferred, Field.unset,
    Kind.ofDefault, Kind.Holds]

theorem wellFormed_of_standard {schema : Schema} (h : schema ∈ standardSchemas) :
    schema.WellFormed := by
  have hnamed := List.all_eq_true.mp standardSchemas_named schema h
  simp only [Bool.and_eq_true, decide_eq_true_eq, List.all_eq_true, bne_iff_ne] at hnamed
  exact ⟨hnamed.1, hnamed.2, standardSchemas_defaults schema h⟩

/-- Every field of a standard record is decided by what is given under its own key: it holds that,
converted, if it is of the field's kind, and the default otherwise. -/
theorem standard_records_faithful : ∀ schema ∈ standardSchemas, schema.Faithful := by
  intro schema h
  have hschema := wellFormed_of_standard h
  exact hschema.faithful

/-- An integer for a double, a boolean and a text for integers, a tuple, and an undeclared key. -/
def mixedSettings : Settings :=
  some [("temperature", .int 1), ("top_k", .bool true), ("max_tokens", .text "all"),
    ("stop", .tuple [.text "END"]), ("seed", .int 7)]

def mixedRecord : Object :=
  [("temperature", .float 1.0), ("top_p", .float 0.9), ("top_k", .null), ("max_tokens", .int 512),
   ("stop", .list [.text "END"])]

theorem mistral_record_of_mixed :
    Mistral.schema ∈ standardSchemas ∧ Mistral.schema.read mixedSettings = .ok mixedRecord ∧
      ∀ field ∈ Mistral.schema, field.Holds mixedSettings (Object.value mixedRecord field.name) := by
  have hmem : Mistral.schema ∈ standardSchemas := by simp [standardSchemas]
  have hone : Binary64.ofInt? 1 = some 1.0 := by decide +kernel
  have htemperature : Field.read (.inferred "temperature" "temperature" (.float 0.5)) mixedSettings =
      .ok (.float 1.0) := by
    change (Value.floatOfInt 1).map Value.float = _
    rw [Value.floatOfInt, hone]
    rfl
  have hread : Mistral.schema.read mixedSettings = .ok mixedRecord := by
    rw [Mistral.schema, Schema.read, htemperature]
    rfl
  refine ⟨hmem, hread, ?_⟩
  intro field hfield
  exact (standard_records_faithful Mistral.schema hmem).holds hread hfield

end ModelGateway
