import ModelGateway.Adapter

/-!
# Stable Diffusion: text to image

A request starts its prompts with the description; the settings may add more of them, as objects or
as pairs of a text and a weight. A response shows its image only when it reports success.
-/
namespace ModelGateway.StableDiffusion

def schema : Schema :=
  [.unset "weight" "weight" .float,
   .unset "cfg_scale" "cfg_scale" .float,
   .unset "clip_guidance_preset" "clip_guidance_preset" .text,
   .unset "sampler" "sampler" .text,
   .unset "samples" "samples" .int,
   .unset "seed" "seed" .int,
   .unset "steps" "steps" .int,
   .unset "style_preset" "style_preset" .text,
   .unset "extras" "extras" .object,
   .unset "text_prompts" "text_prompts" .list]

/-- One entry of the prompts; an unset weight is left out. -/
def promptEntry (text weight : Value) : Object :=
  Object.dropNull [("text", text), ("weight", weight)]

/-- A weight as a double, or null if it is no number. -/
def promptWeight (weight : Value) : Except Conversion Value :=
  if Kind.float.accepts weight then weight.toFloat.map .float else .ok .null

/-- The text and the weight of a well-formed extra prompt. -/
def extraPrompt? : Value → Option (String × Value)
  | .object o =>
    match Object.value o "text" with
    | .text s => some (s, Object.value o "weight")
    | _ => none
  | .list [.text s, weight] => some (s, weight)
  | .tuple [.text s, weight] => some (s, weight)
  | _ => none

/-- The well-formed prompts among the items, in order. -/
def extraPrompts (items : List Value) : Except Conversion (List Object) :=
  (items.filterMap extraPrompt?).mapM fun (s, weight) => do
    return promptEntry (.text s) (← promptWeight weight)

def plainNames : List String :=
  ["cfg_scale", "clip_guidance_preset", "sampler", "samples", "seed", "steps", "style_preset",
   "extras"]

def imageRequest (description width height : Value) (settings : Settings) :
    Except Conversion Object := do
  let record ← schema.read settings
  let extras ← extraPrompts (← (Object.value record "text_prompts").elements)
  let prompts := promptEntry description (Object.value record "weight") :: extras
  return Object.dropNull ([("text_prompts", .list (prompts.map .object)), ("height", height),
    ("width", width)] ++ plainNames.map fun name => (name, Object.value record name))

/-- A seed counts only if it is an integer or a boolean. -/
def seedOf : Value → Value
  | .int n => .int n
  | .bool b => .bool b
  | _ => .null

def artifactResult (artifact : Object) : ImageResult :=
  let seed := seedOf (Object.value artifact "seed")
  match Object.value artifact "finishReason", Object.value artifact "base64" with
  | .null, _ => ⟨.invalid, none, .null, seed⟩
  | reason, .null => ⟨.invalid, none, reason, seed⟩
  | .text "SUCCESS", image => ⟨.success, some image.display, .text "SUCCESS", seed⟩
  | reason, _ => ⟨.failed, none, .text reason.display, seed⟩

def image (payload : Object) : ImageResult :=
  match Object.value payload "artifacts" with
  | .list (.object artifact :: _) => artifactResult artifact
  | .list (_ :: _) => ⟨.invalid, none, .null, .null⟩
  | _ => ⟨.noData, none, .null, .null⟩

def adapter : Adapter :=
  { Adapter.bare "StabilityDiffusionIO" "stability" with
    imageRequest? := some fun _ description width height settings =>
      Fault.ofConversion (imageRequest description width height settings)
    image? := some (Body.decodeWith fun o => .ok (image o)) }

end ModelGateway.StableDiffusion
