import ModelGateway.Proofs.Chat.Format
import ModelGateway.Proofs.Settings.Record

/-!
# Settings restated from their record

What a field holds is of its kind and is held as it is when it is given again, and an unset field
stays unset whether null is given for it or nothing. So a record written back under the wire keys,
with or without its nulls, is read as the same record, and every encoder makes the same of it as of
the settings that the record was read from.
-/
namespace ModelGateway

namespace Kind

variable {kind : Kind} {v w : Value}

theorem Takes.convert (h : kind.Takes v w) : kind.convert v = .ok w := by
  cases h with
  | widened hx =>
    rw [Kind.convert, Value.toFloat, Value.floatOfInt, hx]
    rfl
  | texts hitems _ | items hitems | anyItems hitems =>
    rcases items?_eq_some hitems with rfl | rfl
    · rfl
    · rfl
  | any _ hitems =>
    cases v with
    | tuple items => cases hitems
    | _ => rfl
  | _ => rfl

/-- What a value is held as is held as itself. -/
theorem Takes.again (h : kind.Takes v w) : kind.Takes w w := by
  cases h with
  | float x => exact .float x
  | widened _ => exact .float _
  | int n => exact .int n
  | text s => exact .text s
  | bool b => exact .bool b
  | texts _ htexts => exact .texts rfl htexts
  | items _ => exact .items rfl
  | object o => exact .object o
  | any hnull hitems => exact .any hnull hitems
  | anyItems _ => exact .anyItems rfl

/-- Where a kind is stated, whatever it may hold it holds as itself. -/
theorem Holds.takes (h : kind.Holds w) (hany : kind ≠ .any) : kind.Takes w w := by
  cases kind with
  | float =>
    obtain ⟨x, rfl⟩ := h
    exact .float x
  | int =>
    obtain ⟨n, rfl⟩ := h
    exact .int n
  | text =>
    obtain ⟨s, rfl⟩ := h
    exact .text s
  | bool =>
    obtain ⟨b, rfl⟩ := h
    exact .bool b
  | textList =>
    obtain ⟨items, rfl, htexts⟩ := h
    exact .texts rfl htexts
  | list =>
    obtain ⟨items, rfl⟩ := h
    exact .items rfl
  | object =>
    obtain ⟨o, rfl⟩ := h
    exact .object o
  | any => exact absurd rfl hany

end Kind

namespace Field

variable {field : Field} {settings again : Settings} {v w : Value}

theorem read_of_takes (hkey : field.key ≠ "") (hgiven : settings.given? field.key = some v)
    (h : field.kind.Takes v w) : field.read settings = .ok w := by
  rw [Settings.given?] at hgiven
  rw [read, if_neg hkey, Settings.resolve, hgiven]
  dsimp only
  rw [h.accepts, if_pos rfl, h.convert]

theorem read_of_null (hkey : field.key ≠ "") (hdefault : field.default = .null)
    (hgiven : settings.given? field.key = none ∨ settings.given? field.key = some .null) :
    field.read settings = .ok .null := by
  rw [read, if_neg hkey, Settings.resolve, ← Settings.given?, hdefault]
  rcases hgiven with hgiven | hgiven
  · rw [hgiven]
  · rw [hgiven]
    cases field.kind <;> rfl

/-- A field holds again what it held, if that is given under its key, where null may be left out. -/
theorem read_again (hkey : field.key ≠ "")
    (hdefault : field.default = .null ∨ field.kind.Takes field.default field.default)
    (h : field.Holds settings w)
    (hgiven : again.given? field.key = some w ∨ w = .null ∧ again.given? field.key = none) :
    field.read again = .ok w := by
  suffices hheld : (w = .null ∧ field.default = .null) ∨ field.kind.Takes w w by
    rcases hheld with ⟨rfl, hnull⟩ | htakes
    · exact read_of_null hkey hnull (hgiven.symm.imp And.right id)
    · exact read_of_takes hkey (hgiven.resolve_right fun h => htakes.ne_null h.1) htakes
  cases h with
  | given _ htaken => exact .inr htaken.again
  | absent _ | passedOver _ _ => exact hdefault.imp (fun hnull => ⟨hnull, hnull⟩) id

end Field

namespace Schema

/-- Each field has a key of its own, and a default that is unset or held as itself. -/
structure Restatable (schema : Schema) : Prop extends schema.WellFormed where
  keys_nodup : (schema.map Field.key).Nodup
  default_held : ∀ field ∈ schema,
    field.default = .null ∨ field.kind.Takes field.default field.default

/-- A record written back: under the key of each field what the record holds for it. -/
def restate (schema : Schema) (record : Object) : Object :=
  schema.map fun field => (field.key, Object.value record field.name)

/-- The settings that say what a record holds: with its nulls, and without them. -/
def restatements (schema : Schema) (record : Object) : List Settings :=
  [some (schema.restate record), some (Object.dropNull (schema.restate record))]

variable {schema : Schema} {settings again : Settings} {record : Object} {field : Field}

theorem keys_restate (schema : Schema) (record : Object) :
    (schema.restate record).map Prod.fst = schema.map Field.key := by
  rw [restate, List.map_map]
  rfl

theorem value?_restate (hkeys : (schema.map Field.key).Nodup) (record : Object)
    (hfield : field ∈ schema) :
    Object.value? (schema.restate record) field.key = some (Object.value record field.name) := by
  refine Object.value?_of_mem ?_ (List.mem_map_of_mem hfield)
  rwa [keys_restate]

theorem given?_restatement (hkeys : (schema.map Field.key).Nodup)
    (hagain : again ∈ schema.restatements record) (hfield : field ∈ schema) :
    again.given? field.key = some (Object.value record field.name) ∨
      Object.value record field.name = .null ∧ again.given? field.key = none := by
  have hvalue := value?_restate hkeys record hfield
  simp only [restatements, List.mem_cons, List.not_mem_nil, or_false] at hagain
  rcases hagain with rfl | rfl
  · exact .inl hvalue
  · have hdropped : Object.value? (Object.dropNull (schema.restate record)) field.key =
        (some (Object.value record field.name)).filter fun v => !v.isNull := by
      rw [Object.value?_dropNull (by rwa [keys_restate]), hvalue]
    cases hnull : Object.value record field.name with
    | null =>
      rw [hnull] at hdropped
      exact .inr ⟨rfl, hdropped⟩
    | _ =>
      rw [hnull] at hdropped
      exact .inl hdropped

/-- Every field reads the same of a restated record as of the settings behind the record, so the
whole schema does. -/
theorem Restatable.read_restatement (hschema : schema.Restatable)
    (h : schema.read settings = .ok record) (hagain : again ∈ schema.restatements record) :
    schema.read again = .ok record := by
  rw [← h]
  refine read_congr fun field hfield => ?_
  rw [hschema.read_field h hfield]
  exact Field.read_again (hschema.key_ne_empty field hfield) (hschema.default_held field hfield)
    (hschema.holds h hfield) (given?_restatement hschema.keys_nodup hagain hfield)

end Schema

theorem standardSchemas_keys : standardSchemas.all (fun schema =>
    decide (schema.map Field.key).Nodup && schema.all fun field => field.kind != .any) = true := by
  decide +kernel

theorem restatable_of_standard {schema : Schema} (h : schema ∈ standardSchemas) :
    schema.Restatable := by
  have hwellFormed := wellFormed_of_standard h
  have hkeys := List.all_eq_true.mp standardSchemas_keys schema h
  simp only [Bool.and_eq_true, decide_eq_true_eq, List.all_eq_true, bne_iff_ne] at hkeys
  refine ⟨hwellFormed, hkeys.1, fun field hfield => ?_⟩
  exact (hwellFormed.default_typed field hfield).imp_right fun hholds =>
    hholds.takes (hkeys.2 field hfield)

/-! ## Encoders -/

namespace ChatFormat

theorem schema_standard (f : ChatFormat) : f.schema ∈ standardSchemas := by
  cases f <;> simp [schema, standardSchemas]

variable {f : ChatFormat} {settings again : Settings}

/-- Encoders look at settings only through the record of their schema. -/
theorem textRequest_congr (h : f.schema.read again = f.schema.read settings) (modelId : String)
    (prompt : Value) :
    f.adapter.textRequest modelId prompt again = f.adapter.textRequest modelId prompt settings := by
  rw [textRequest_eq, textRequest_eq]
  refine congrArg Fault.ofConversion ?_
  cases f with
  | titan => exact congrArg (· >>= _) h
  | claude => exact congrArg (· >>= _) h
  | commandR => exact congrArg (· >>= _) h
  | llama => exact congrArg (· >>= _) h
  | mistral => exact congrArg (· >>= _) h
  | jamba => exact congrArg (· >>= _) h

theorem converseRequest_congr (h : f.schema.read again = f.schema.read settings) (modelId : String)
    (turns : List Turn) :
    f.adapter.converseRequest modelId turns again =
      f.adapter.converseRequest modelId turns settings := by
  rw [converseRequest_eq, converseRequest_eq, h]

end ChatFormat

theorem Jurassic.textRequest_congr {settings again : Settings}
    (h : schema.read again = schema.read settings) (modelId : String) (prompt : Value) :
    adapter.textRequest modelId prompt again = adapter.textRequest modelId prompt settings :=
  congrArg (fun read => Fault.ofConversion (read >>= _)) h

theorem StableDiffusion.imageRequest_congr {settings again : Settings}
    (h : schema.read again = schema.read settings) (modelId : String)
    (description width height : Value) :
    adapter.imageRequest modelId description width height again =
      adapter.imageRequest modelId description width height settings :=
  congrArg (fun read => Fault.ofConversion (read >>= _)) h

/-- The record that a standard schema reads from settings is read again from the settings that state
it, with its nulls or without them; and of these every encoder makes what it made of the first. -/
theorem records_are_read_again (settings : Settings) :
    (∀ schema ∈ standardSchemas, ∀ record, schema.read settings = .ok record →
      ∀ again ∈ schema.restatements record, schema.read again = .ok record) ∧
    (∀ (f : ChatFormat) record, f.schema.read settings = .ok record →
      ∀ again ∈ f.schema.restatements record, ∀ modelId,
        (∀ prompt, f.adapter.textRequest modelId prompt again =
          f.adapter.textRequest modelId prompt settings) ∧
        ∀ turns, f.adapter.converseRequest modelId turns again =
          f.adapter.converseRequest modelId turns settings) ∧
    (∀ record, Jurassic.schema.read settings = .ok record →
      ∀ again ∈ Jurassic.schema.restatements record, ∀ modelId prompt,
        Jurassic.adapter.textRequest modelId prompt again =
          Jurassic.adapter.textRequest modelId prompt settings) ∧
    ∀ record, StableDiffusion.schema.read settings = .ok record →
      ∀ again ∈ StableDiffusion.schema.restatements record, ∀ modelId description width height,
        StableDiffusion.adapter.imageRequest modelId description width height again =
          StableDiffusion.adapter.imageRequest modelId description width height settings := by
  have hagain : ∀ schema ∈ standardSchemas, ∀ record, schema.read settings = .ok record →
      ∀ again ∈ schema.restatements record, schema.read again = .ok record :=
    fun schema hschema record hread again hmem =>
      (restatable_of_standard hschema).read_restatement hread hmem
  refine ⟨hagain, ?_, ?_, ?_⟩
  · intro f record hread again hmem modelId
    have hsame := (hagain f.schema f.schema_standard record hread again hmem).trans hread.symm
    exact ⟨ChatFormat.textRequest_congr hsame modelId,
      ChatFormat.converseRequest_congr hsame modelId⟩
  · intro record hread again hmem
    exact Jurassic.textRequest_congr
      ((hagain _ Jurassic.schema_standard record hread again hmem).trans hread.symm)
  · intro record hread again hmem
    exact StableDiffusion.imageRequest_congr
      ((hagain _ StableDiffusion.schema_standard record hread again hmem).trans hread.symm)

/-- A seed, an empty object and pairs in a tuple, next to a sample count that is no integer. -/
def foggySettings : Settings :=
  some [("seed", .int 0), ("samples", .bool true), ("extras", .object []),
    ("text_prompts", .tuple [.list [.text "fog", .null]])]

/-- Read again, a tuple is a list, and what was of no use is unset. -/
theorem foggy_record_is_read_again : ∃ record body,
    StableDiffusion.schema.read foggySettings = .ok record ∧
    StableDiffusion.schema.restatements record = [
      some [("weight", .null), ("cfg_scale", .null), ("clip_guidance_preset", .null),
        ("sampler", .null), ("samples", .null), ("seed", .int 0), ("steps", .null),
        ("style_preset", .null), ("extras", .object []),
        ("text_prompts", .list [.list [.text "fog", .null]])],
      some [("seed", .int 0), ("extras", .object []),
        ("text_prompts", .list [.list [.text "fog", .null]])]] ∧
    StableDiffusion.adapter.imageRequest "stability.stable-diffusion-xl-v1" (.text "sea") (.int 64)
      (.int 64) foggySettings = .ok body ∧
    ∀ again ∈ StableDiffusion.schema.restatements record,
      StableDiffusion.schema.read again = .ok record ∧
      StableDiffusion.adapter.imageRequest "stability.stable-diffusion-xl-v1" (.text "sea")
        (.int 64) (.int 64) again = .ok body := by
  refine ⟨_, _, rfl, rfl, rfl, fun again hagain => ?_⟩
  obtain ⟨hread, _, _, himage⟩ := records_are_read_again foggySettings
  exact ⟨hread _ StableDiffusion.schema_standard _ rfl again hagain, himage _ rfl again hagain
    "stability.stable-diffusion-xl-v1" (.text "sea") (.int 64) (.int 64)⟩

end ModelGateway
