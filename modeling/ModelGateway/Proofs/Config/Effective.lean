import ModelGateway.Config
import ModelGateway.Proofs.Options
import ModelGateway.Proofs.Settings

/-!
# The effective configuration settles

The parts of an effective configuration are independent of each other: each is read from one
environment variable or one key and then put in form. A part in form stays as it is, so taking an
effective configuration for a configuration gives it back, under the same environment and under an
empty one.
-/
namespace ModelGateway

namespace Config

variable {env env' : Environment} {config config' : Object} {name key : String} {default : Value}

/-- That an environment sets a variable to a text which is not empty. -/
def Sets (env : Environment) (name : String) : Prop := ∃ text, env.value? name = some text ∧ text ≠ ""

theorem source_of_sets (h : Sets env name) (config config' : Object) (key : String)
    (default default' : Value) :
    source env config name key default = source env config' name key default' := by
  obtain ⟨text, htext, hne⟩ := h
  unfold source
  rw [htext]
  dsimp only
  rw [if_neg hne, if_neg hne]

theorem source_of_not_sets (h : ¬Sets env name) :
    source env config name key default = (Object.value? config key).getD default := by
  unfold source
  split
  · rename_i text htext
    have hempty : text = "" := not_not.mp fun hne => h ⟨text, htext, hne⟩
    rw [if_pos hempty]
  · rfl

theorem source_congr (henv : env'.value? name = env.value? name)
    (hconfig : Object.value? config' key = Object.value? config key) :
    source env' config' name key default = source env config name key default := by
  unfold source
  rw [henv, hconfig]

end Config

namespace EffectiveConfig

/-- A part of the configuration: its key, the environment variable that goes before the key, its
default, and the form that what is found is put in. -/
structure Part where
  key : String
  name : String
  default : Value
  form : Value → Value

namespace Part

def read (p : Part) (config : Object) (env : Environment) : Value :=
  p.form (Config.source env config p.name p.key p.default)

/-- A text, and the default where there is none. -/
def required (key name default : String) : Part :=
  ⟨key, name, .text default, fun v => .text (v.optionalText.getD default)⟩

/-- A text, or null. -/
def optional (key name : String) : Part :=
  ⟨key, name, .null, fun v => .ofText? v.optionalText⟩

/-- The model of an operation, in whatever form it is given. -/
def model (key name default : String) : Part := ⟨key, name, .text default, id⟩

def flag (key name : String) (default : Bool) : Part :=
  ⟨key, name, .bool default, fun v => .bool (Config.coerceFlag v default)⟩

/-- That a value in form stays as it is. -/
def Settled (p : Part) : Prop := ∀ v, p.form (p.form v) = p.form v

theorem getD_isTrim {default : String} (h : Text.IsTrim default) (v : Value) :
    Text.IsTrim (v.optionalText.getD default) := by
  cases hv : v.optionalText with
  | none => exact h
  | some text => exact Value.isTrim_of_optionalText hv

theorem optional_read (key name : String) (config : Object) (env : Environment) :
    (optional key name).read config env = .null ∨
      ∃ text, (optional key name).read config env = .text text ∧ Text.IsTrim text := by
  unfold read optional
  dsimp only
  generalize Config.source env config name key .null = v
  cases hv : v.optionalText with
  | none => exact .inl rfl
  | some text => exact .inr ⟨text, rfl, Value.isTrim_of_optionalText hv⟩

theorem required_settled {default : String} (h : Text.IsTrim default) (key name : String) :
    (required key name default).Settled := by
  intro v
  have htrim := getD_isTrim h v
  change Value.text ((Value.text (v.optionalText.getD default)).optionalText.getD default) = _
  rw [Value.optionalText_of_isTrim htrim]
  rfl

theorem optional_settled (key name : String) : (optional key name).Settled := by
  intro v
  simp only [optional, Value.optionalText_ofText?]

theorem model_settled (key name default : String) : (model key name default).Settled := fun _ => rfl

theorem flag_settled (key name : String) (default : Bool) : (flag key name default).Settled :=
  fun _ => rfl

end Part

def parts : List Part :=
  [.required "region" "AWS_REGION" defaultRegion,
   .optional "endpoint_url" "BEDROCK_ENDPOINT_URL",
   .optional "profile_name" "AWS_PROFILE",
   .model "text_model" "BEDROCK_TEXT_MODEL" "amazon.titan-text-express-v1",
   .model "chat_model" "BEDROCK_CHAT_MODEL" "anthropic.claude-3-haiku-20240307-v1:0",
   .model "embedding_model" "BEDROCK_EMBEDDING_MODEL" "amazon.titan-embed-text-v2:0",
   .model "image_model" "BEDROCK_IMAGE_MODEL" "stability.stable-diffusion-xl-v1",
   .flag "strict_decoding" "BEDROCK_STRICT_DECODING" false,
   .flag "log_events" "BEDROCK_LOG_EVENTS" true]

theorem keys_nodup : (parts.map Part.key).Nodup := by decide

theorem defaultRegion_isTrim : Text.IsTrim defaultRegion := ⟨by decide, rfl⟩

theorem parts_settled : ∀ p ∈ parts, p.Settled := by
  unfold parts
  simp only [List.forall_mem_cons]
  exact ⟨Part.required_settled defaultRegion_isTrim _ _, Part.optional_settled _ _,
    Part.optional_settled _ _, Part.model_settled _ _ _, Part.model_settled _ _ _,
    Part.model_settled _ _ _, Part.model_settled _ _ _, Part.flag_settled _ _ _,
    Part.flag_settled _ _ _, List.forall_mem_nil _⟩

/-! ## Each part by itself -/

variable {p : Part} {config : Object} {env : Environment}

theorem toObject_make (config : Object) (env : Environment) :
    (make config env).toObject = parts.map fun p => (p.key, p.read config env) := by
  simp only [parts, List.map_cons, List.map_nil, Part.read, Part.required, Part.optional, Part.model,
    Part.flag, id_eq, toObject, make]

theorem keys_toObject (config : Object) (env : Environment) :
    (make config env).toObject.map Prod.fst = parts.map Part.key := by
  rw [toObject_make, List.map_map]
  rfl

theorem value?_toObject (hp : p ∈ parts) (config : Object) (env : Environment) :
    Object.value? (make config env).toObject p.key = some (p.read config env) := by
  have hkeys : ((make config env).toObject.map Prod.fst).Nodup := by
    rw [keys_toObject]
    exact keys_nodup
  refine Object.value?_of_mem hkeys ?_
  rw [toObject_make]
  exact List.mem_map.mpr ⟨p, hp, rfl⟩

theorem value?_optional {i : Nat} {key name : String} (hi : parts[i]? = some (.optional key name))
    (config : Object) (env : Environment) :
    Object.value? (make config env).toObject key = some .null ∨
      ∃ text, Object.value? (make config env).toObject key = some (.text text) ∧ Text.IsTrim text := by
  have hvalue : Object.value? (make config env).toObject key = _ :=
    value?_toObject (List.mem_of_getElem? hi) config env
  rw [hvalue]
  rcases Part.optional_read key name config env with hnull | ⟨text, htext, htrim⟩
  · exact .inl (congrArg some hnull)
  · exact .inr ⟨text, congrArg some htext, htrim⟩

theorem value?_flag {i : Nat} {key name : String} {default : Bool}
    (hi : parts[i]? = some (.flag key name default)) (config : Object) (env : Environment) :
    ∃ b, Object.value? (make config env).toObject key = some (.bool b) :=
  ⟨_, value?_toObject (List.mem_of_getElem? hi) config env⟩

/-- A part depends on its variable and, where that is not set, on its key. -/
theorem read_congr {config' : Object} {env' : Environment}
    (henv : env'.value? p.name = env.value? p.name)
    (hsource : Config.Sets env p.name ∨
      Object.value? config' p.key = Object.value? config p.key) :
    p.read config' env' = p.read config env := by
  unfold Part.read
  rcases hsource with hsets | hconfig
  · rw [Config.source_congr henv rfl, Config.source_of_sets hsets config' config _ _ p.default]
  · rw [Config.source_congr henv hconfig]

/-- A part that is read from an effective configuration is what it was, if the environment sets its
variable to nothing else. -/
theorem read_toObject (hp : p ∈ parts) {env' : Environment}
    (henv : env'.value? p.name = env.value? p.name ∨ ¬Config.Sets env' p.name) :
    p.read (make config env).toObject env' = p.read config env := by
  -- A variable that is set decides by itself. Otherwise what was read before is found under the key.
  by_cases hsets : Config.Sets env' p.name
  · have hsame := henv.resolve_right (not_not.mpr hsets)
    have hsets' : Config.Sets env p.name := by
      unfold Config.Sets
      rwa [← hsame]
    unfold Part.read
    rw [Config.source_of_sets hsets _ config _ _ p.default, Config.source_congr hsame rfl]
  · have hfound : Config.source env' (make config env).toObject p.name p.key p.default =
        p.read config env := by
      rw [Config.source_of_not_sets hsets, value?_toObject hp]
      rfl
    change p.form _ = _
    rw [hfound]
    exact parts_settled p hp _

theorem make_toObject {env' : Environment}
    (henv : ∀ p ∈ parts, env'.value? p.name = env.value? p.name ∨ ¬Config.Sets env' p.name) :
    (make (make config env).toObject env').toObject = (make config env).toObject := by
  rw [toObject_make, toObject_make config env]
  refine List.map_congr_left fun p hp => ?_
  rw [← toObject_make, read_toObject hp (henv p hp)]

/-- An effective configuration taken for a configuration is its own effective configuration, under
the same environment and under an empty one. Each key of it depends on its own variable and its own
key only, and not on the key where the variable is set to a text that is not empty. The region is a
text without blanks around it, so are the endpoint and the profile unless they are null, and the
flags are booleans. -/
theorem effective_settles (config : Object) (env : Environment) :
    let effective := (make config env).toObject
    (make effective env).toObject = effective ∧ (make effective []).toObject = effective ∧
    effective.map Prod.fst = parts.map Part.key ∧
    (∀ p ∈ parts, ∀ (config' : Object) (env' : Environment),
      env'.value? p.name = env.value? p.name →
      Config.Sets env p.name ∨ Object.value? config' p.key = Object.value? config p.key →
      Object.value? (make config' env').toObject p.key = Object.value? effective p.key) ∧
    (∃ region, Object.value? effective "region" = some (.text region) ∧ Text.IsTrim region) ∧
    (∀ key ∈ ["endpoint_url", "profile_name"], Object.value? effective key = some .null ∨
      ∃ text, Object.value? effective key = some (.text text) ∧ Text.IsTrim text) ∧
    ∀ key ∈ ["strict_decoding", "log_events"], ∃ b, Object.value? effective key = some (.bool b) := by
  intro effective
  refine ⟨make_toObject fun _ _ => .inl rfl, make_toObject fun _ _ => .inr nofun, ?_, ?_, ?_, ?_, ?_⟩
  · exact keys_toObject config env
  · intro p hp config' env' henv hsource
    rw [value?_toObject hp, value?_toObject hp, read_congr henv hsource]
  · have hregion := value?_toObject (List.mem_of_getElem? (i := 0) rfl) config env
    exact ⟨_, hregion, Part.getD_isTrim defaultRegion_isTrim _⟩
  · simp only [List.forall_mem_cons]
    exact ⟨value?_optional (i := 1) rfl config env, value?_optional (i := 2) rfl config env,
      List.forall_mem_nil _⟩
  · simp only [List.forall_mem_cons]
    exact ⟨value?_flag (i := 7) rfl config env, value?_flag (i := 8) rfl config env,
      List.forall_mem_nil _⟩

end EffectiveConfig
end ModelGateway
