import ModelGateway.Proofs.Decoding.Strictness
import ModelGateway.Proofs.Outcome

/-!
# Where tolerant decoding fails

A tolerant decoder passes over nearly everything that it does not expect. It fails in two places: it
goes through the items of a value that counts as present and has none, and it makes doubles of items
that are no numbers. Which of the two a decoder can do, and with which member of the object, decides
exactly when it fails; the other decoders always give a result.
-/
namespace ModelGateway

theorem FailsFor.ofConversion {α : Type} {outcome : Except Conversion α} {why : Option Conversion}
    (h : FailsFor outcome why) : FailsFor (Fault.ofConversion outcome) (why.map .conversion) := by
  cases why with
  | some c =>
    obtain rfl : outcome = .error c := h
    rfl
  | none =>
    obtain ⟨a, rfl⟩ := h
    exact ok a

namespace Value

/-- Whether a value is a list, a tuple, a text or an object. -/
def hasItems : Value → Bool
  | list _ | tuple _ | text _ | object _ => true
  | _ => false

/-- Why the items of a value cannot be gone through: it counts as present and has none. -/
def listFault? (v : Value) : Option Conversion :=
  if v.isTruthy && !v.hasItems then some .notIterable else none

/-- Why a value does not become a double. -/
def numberFault? : Value → Option Conversion
  | float _ | bool _ => none
  | int n => if (Binary64.ofInt? n).isSome then none else some .numberTooLarge
  | text s => if (Numeral.float? s).isSome then none else some .unreadableNumber
  | _ => some .notNumeric

theorem elements_failsFor (v : Value) : FailsFor v.elements v.listFault? := by
  unfold elements listFault?
  cases v.isTruthy with
  | false => exact .ok []
  | true =>
    cases v with
    | list items => exact .ok items
    | tuple items => exact .ok items
    | text s => exact .ok _
    | object members => exact .ok _
    | _ => rfl

theorem elementObjects_failsFor (v : Value) : FailsFor v.elementObjects v.listFault? :=
  v.elements_failsFor.map

theorem toFloat_failsFor (v : Value) : FailsFor v.toFloat v.numberFault? := by
  cases v with
  | float x => exact .ok x
  | bool b => exact .ok _
  | int n =>
    rw [toFloat, numberFault?, floatOfInt]
    cases Binary64.ofInt? n with
    | some x => exact .ok x
    | none => rfl
  | text s =>
    rw [toFloat, numberFault?]
    cases Numeral.float? s with
    | some x => exact .ok x
    | none => rfl
  | _ => rfl

end Value

/-! ## The decoders -/

theorem Titan.completions_failsFor (modelId : String) (o : Object) :
    FailsFor (completions modelId o) (Object.value o "results").listFault? := by
  refine (Value.elementObjects_failsFor _).bind ?_
  rintro (_ | ⟨first, others⟩)
  · exact .ok []
  · exact .ok _

/-- A completion is shown before the content is looked at. -/
theorem Claude.completions_failsFor (modelId : String) (o : Object) :
    FailsFor (completions modelId o)
      (if (Object.value o "completion").isTruthy then none
        else (Object.value o "content").listFault?) := by
  unfold completions Value.fragment
  cases (Object.value o "completion").isTruthy with
  | true => exact .ok _
  | false =>
    refine (Value.elementObjects_failsFor _).bind ?_
    intro blocks
    dsimp only
    split
    · exact .ok []
    · exact .ok _

theorem Mistral.completions_failsFor (modelId : String) (o : Object) :
    FailsFor (completions modelId o) (Object.value o "outputs").listFault? :=
  (Value.elementObjects_failsFor _).bind fun _ => .ok _

theorem Jamba.completions_failsFor (modelId : String) (o : Object) :
    FailsFor (completions modelId o) (Object.value o "choices").listFault? :=
  (Value.elementObjects_failsFor _).bind fun _ => .ok _

theorem Jurassic.completions_failsFor (modelId : String) (o : Object) :
    FailsFor (completions modelId o) (Object.value o "completions").listFault? :=
  (Value.elementObjects_failsFor _).bind fun _ => .ok _

/-- Why a value is no vector: its first item that is no number. What is no list is no vector at
all and counts as the empty one. -/
def Titan.vectorFault? : Value → Option Conversion
  | .list items => items.findSome? Value.numberFault?
  | _ => none

theorem Titan.embedding_failsFor (o : Object) :
    FailsFor (embedding o) (vectorFault? (Object.value o "embedding")) := by
  unfold embedding
  cases Object.value o "embedding" with
  | list items => exact .mapM Value.toFloat_failsFor items
  | _ => exact .ok []

/-- The vectors of a response: those under `float` where there are several kinds. -/
def CohereEmbed.vectors (payload : Object) : Value :=
  match Object.value payload "embeddings" with
  | .object byType => Object.value byType "float"
  | v => v

/-- Why the first of several vectors is none. -/
def CohereEmbed.firstFault? : Value → Option Conversion
  | .list (.list first :: _) => first.findSome? Value.numberFault?
  | _ => none

theorem CohereEmbed.embedding_failsFor (o : Object) :
    FailsFor (embedding o) (firstFault? (vectors o)) := by
  change FailsFor (match vectors o with
    | .list (.list first :: _) => first.mapM Value.toFloat
    | _ => .ok []) _
  unfold firstFault?
  split
  · exact .mapM Value.toFloat_failsFor _
  · exact .ok []

theorem Reply.ofResponse_failsFor (response : Value) (modelId : String) :
    let message := (response.member "output").member "message"
    FailsFor (ofResponse response modelId)
      (if message.isObject then (message.member "content").listFault? else none) := by
  unfold ofResponse
  dsimp only
  cases ((response.member "output").member "message").isObject with
  | false => exact .ok []
  | true => exact (Value.elements_failsFor _).bind fun _ => .ok _

/-! ## Bodies -/

/-- A tolerant decoder goes on from the object that the body holds, or from the empty one. -/
theorem failsFor_decodeWith {α : Type} {f : Object → Except Conversion α} {body : Body} {o : Object}
    {why : Option Conversion} (ho : body.object false = .ok o) (h : FailsFor (f o) why) :
    FailsFor (body.decodeWith f false) (why.map .conversion) := by
  rw [Body.decodeWith_of_object ho]
  exact h.ofConversion

theorem exists_object_tolerant (body : Body) : ∃ o, body.object false = .ok o := by
  rcases body.holds_or_malformed with ⟨o, _, ho⟩ | ⟨_, hempty, _⟩
  · exact ⟨o, ho false⟩
  · exact ⟨[], hempty⟩

/-- Without strictness every decoder gives a result for every body but those whose object has, where
the decoder goes through items, a value without items that counts as present, or, where it makes
doubles, an item that is no number. Then it fails for that value. -/
theorem tolerant_decoding_fails_exactly (modelId : String) (body : Body) :
    ∃ o, body.object false = .ok o ∧
      FailsFor (Titan.adapter.completions modelId body false)
        ((Object.value o "results").listFault?.map .conversion) ∧
      FailsFor (Claude.adapter.completions modelId body false)
        ((if (Object.value o "completion").isTruthy then none
          else (Object.value o "content").listFault?).map .conversion) ∧
      FailsFor (CommandR.adapter.completions modelId body false) none ∧
      FailsFor (Llama.adapter.completions modelId body false) none ∧
      FailsFor (Mistral.adapter.completions modelId body false)
        ((Object.value o "outputs").listFault?.map .conversion) ∧
      FailsFor (Jamba.adapter.completions modelId body false)
        ((Object.value o "choices").listFault?.map .conversion) ∧
      FailsFor (Jurassic.adapter.completions modelId body false)
        ((Object.value o "completions").listFault?.map .conversion) ∧
      FailsFor (Titan.adapter.embedding body false)
        ((Titan.vectorFault? (Object.value o "embedding")).map .conversion) ∧
      FailsFor (CohereEmbed.adapter.embedding body false)
        ((CohereEmbed.firstFault? (CohereEmbed.vectors o)).map .conversion) ∧
      FailsFor (StableDiffusion.adapter.image body false) none ∧
      ∀ response, let message := (response.member "output").member "message"
        FailsFor (Reply.ofResponse response modelId)
          (if message.isObject then (message.member "content").listFault? else none) := by
  obtain ⟨o, ho⟩ := exists_object_tolerant body
  refine ⟨o, ho, ?_, ?_, ?_, ?_, ?_, ?_, ?_, ?_, ?_, ?_, ?_⟩
  · exact failsFor_decodeWith ho (Titan.completions_failsFor modelId o)
  · exact failsFor_decodeWith ho (Claude.completions_failsFor modelId o)
  · exact failsFor_decodeWith (f := fun o => .ok (CommandR.completions modelId o)) ho (.ok _)
  · exact failsFor_decodeWith (f := fun o => .ok (Llama.completions modelId o)) ho (.ok _)
  · exact failsFor_decodeWith ho (Mistral.completions_failsFor modelId o)
  · exact failsFor_decodeWith ho (Jamba.completions_failsFor modelId o)
  · exact failsFor_decodeWith ho (Jurassic.completions_failsFor modelId o)
  · exact failsFor_decodeWith ho (Titan.embedding_failsFor o)
  · exact failsFor_decodeWith ho (CohereEmbed.embedding_failsFor o)
  · exact failsFor_decodeWith (f := fun o => .ok (StableDiffusion.image o)) ho (.ok _)
  · exact fun response => Reply.ofResponse_failsFor response modelId

/-- A number in the place of a list, or a word in the place of a number, makes tolerant decoding
fail. -/
theorem tolerant_decoding_can_fail :
    Titan.adapter.completions "amazon.titan-text-express-v1"
        (.value (.object [("results", .int 5)])) false = .error (.conversion .notIterable) ∧
      Titan.adapter.embedding (.value (.object [("embedding", .list [.text "x"])])) false =
        .error (.conversion .unreadableNumber) ∧
      Reply.ofResponse
        (.object [("output", .object [("message", .object [("content", .int 5)])])]) "m" =
          .error .notIterable :=
  ⟨rfl, rfl, rfl⟩

end ModelGateway
