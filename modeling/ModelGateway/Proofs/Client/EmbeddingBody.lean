import ModelGateway.Client
import ModelGateway.Proofs.Text.Utf8

/-!
# The body of an embedding request

The standard adapters put a text in front of everything else in a body, so the body is the written text
between a front and a back that do not depend on it. This is what two fillings of a text with
different characters have in common, and where they differ the text has its halves of surrogate
pairs: nothing else in the body has any.
-/
namespace ModelGateway

/-- A code point as it stands in a body: half of a surrogate pair is not escaped. -/
def CodePoint.written : CodePoint → LooseText
  | char c => (Json.writeChar false c).map .char
  | half n => [.half n]

/-- The body that holds a text between a front and a back. -/
def LooseText.framed (front back : List Char) (t : LooseText) : LooseText :=
  front.map .char ++ t.flatMap CodePoint.written ++ back.map .char

namespace LooseText

variable (front back : List Char)

theorem halves_framed (t : LooseText) : (t.framed front back).halves = t.halves := by
  have hwritten : halves (t.flatMap CodePoint.written) = t.halves := by
    induction t with
    | nil => rfl
    | cons p rest ih =>
      rw [List.flatMap_cons, halves_append, ih]
      cases p with
      | char c => exact congrArg (· ++ halves rest) (halves_chars _)
      | half n => rfl
  rw [framed, halves_append, halves_append, halves_chars, halves_chars, hwritten,
    List.nil_append, List.append_nil]

/-- A character that needs no escape may stand in for the halves before or after the text is
written. -/
theorem filled_framed {standIn : Char} (h : Json.writeChar false standIn = [standIn])
    (t : LooseText) :
    (t.framed front back).map (·.filled standIn) =
      front ++ (t.fill standIn).toList.flatMap (Json.writeChar false) ++ back := by
  have hwritten : (t.flatMap CodePoint.written).map (·.filled standIn) =
      (t.map (·.filled standIn)).flatMap (Json.writeChar false) := by
    induction t with
    | nil => rfl
    | cons p rest ih =>
      rw [List.flatMap_cons, List.map_append, ih, List.map_cons, List.flatMap_cons]
      cases p with
      | char c => exact congrArg (· ++ _) (filled_chars standIn _)
      | half n => exact congrArg (· ++ _) h.symm
  rw [framed, List.map_append, List.map_append, filled_chars, filled_chars, hwritten, fill,
    String.toList_ofList]

theorem framed_half (s : String) (n : Fin 0x800) (rest : LooseText) :
    framed front back (ofString s ++ .half n :: rest) =
      (front ++ s.toList.flatMap (Json.writeChar false)).map .char ++
        .half n :: (rest.flatMap CodePoint.written ++ back.map .char) := by
  have hwritten : (ofString s).flatMap CodePoint.written =
      (s.toList.flatMap (Json.writeChar false)).map .char := by
    rw [ofString, List.flatMap_map, List.map_flatMap]
    rfl
  rw [framed, List.flatMap_append, hwritten, List.flatMap_cons, List.map_append]
  simp only [CodePoint.written, List.append_assoc, List.cons_append, List.nil_append]

end LooseText

namespace Json

theorem intercalate_of_first (separator text : List Char) (after : List (List Char)) :
    separator.intercalate (text :: after) = text ++ after.flatMap (separator ++ ·) := by
  induction after generalizing text with
  | nil => rw [List.intercalate_singleton, List.flatMap_nil, List.append_nil]
  | cons next after ih =>
    rw [List.intercalate_cons_cons, ih, List.flatMap_cons, List.append_assoc, List.append_assoc]

theorem write_line_list (level : Nat) (v : Value) :
    write .line level (.list [v]) = ['['] ++ write .line (level + 1) v ++ [']'] := by
  change '[' :: ([] ++ List.intercalate [',', ' '] [write .line (level + 1) v] ++ [] ++ [']']) = _
  rw [List.intercalate_singleton, List.nil_append, List.append_nil]
  rfl

/-- The first value of an object stands in its text as it is written alone. -/
theorem write_line_first (level : Nat) (key : String) (after : Object) :
    ∃ front back, ∀ v, write .line level (.object ((key, v) :: after)) =
      front ++ write .line (level + 1) v ++ back := by
  have hmembers : ∃ texts, ∀ v, write .line level (.object ((key, v) :: after)) =
      '{' :: ([] ++ List.intercalate [',', ' ']
        ((writeText false key ++ [':', ' '] ++ write .line (level + 1) v) :: texts) ++ [] ++
          ['}']) := ⟨_, fun _ => rfl⟩
  obtain ⟨texts, hmembers⟩ := hmembers
  refine ⟨'{' :: (writeText false key ++ [':', ' ']), texts.flatMap ([',', ' '] ++ ·) ++ ['}'],
    fun v => ?_⟩
  rw [hmembers, intercalate_of_first]
  simp only [List.nil_append, List.append_nil, List.append_assoc, List.cons_append]

end Json

/-- An adapter that makes a request of every text, in whose body the text stands as JSON writes it. -/
def Adapter.TakesTexts (a : Adapter) : Prop :=
  ∀ modelId, ∃ front back : List Char, ∀ s, ∃ payload,
    a.embeddingRequest modelId (.text s) = .ok payload ∧ Object.canWrite payload = true ∧
      (Object.bodyText payload).toList =
        front ++ s.toList.flatMap (Json.writeChar false) ++ back

/-- The text of an object whose first member is a text. -/
theorem Object.bodyText_first (key : String) (after : Object) :
    ∃ front back : List Char, ∀ s, (Object.bodyText ((key, .text s) :: after)).toList =
      front ++ s.toList.flatMap (Json.writeChar false) ++ back := by
  obtain ⟨front, back, hwrite⟩ := Json.write_line_first 0 key after
  refine ⟨front ++ ['"'], '"' :: back, fun s => ?_⟩
  rw [bodyText, Json.render, String.toList_ofList, hwrite]
  change front ++ '"' :: (_ ++ ['"']) ++ back = _
  simp only [List.append_assoc, List.cons_append, List.nil_append]
  rfl

theorem Titan.takesTexts : Titan.adapter.TakesTexts := by
  intro modelId
  cases hversion : Text.holds modelId "v1" with
  | true =>
    obtain ⟨front, back, htext⟩ := Object.bodyText_first "inputText" []
    refine ⟨front, back, fun s => ⟨[("inputText", .text s)], ?_, rfl, htext s⟩⟩
    exact congrArg Except.ok (if_pos hversion)
  | false =>
    obtain ⟨front, back, htext⟩ := Object.bodyText_first "inputText"
      [("dimensions", .int embeddingDimensions), ("normalize", .bool true)]
    refine ⟨front, back, fun s => ⟨_, ?_, rfl, htext s⟩⟩
    exact congrArg Except.ok (if_neg (Bool.eq_false_iff.mp hversion))

theorem CohereEmbed.takesTexts : CohereEmbed.adapter.TakesTexts := by
  intro modelId
  obtain ⟨front, back, hwrite⟩ := Json.write_line_first 0 "texts"
    [("input_type", .text "search_document"), ("truncate", .text "END")]
  refine ⟨front ++ ['[', '"'], ['"', ']'] ++ back, fun s =>
    ⟨embeddingRequest (.text s), rfl, rfl, ?_⟩⟩
  rw [Object.bodyText, Json.render, String.toList_ofList]
  refine (hwrite (.list [.text s])).trans ?_
  rw [Json.write_line_list]
  change front ++ ('[' :: ('"' :: (_ ++ ['"'])) ++ [']']) ++ back = _
  simp only [List.append_assoc, List.cons_append, List.nil_append]
  rfl

namespace Client

variable (c : Client .embedding)

theorem embeddingBody_framed (h : c.route.adapter.TakesTexts) :
    ∃ front back, ∀ t : LooseText, c.embeddingBody t = .ok (t.framed front back) := by
  obtain ⟨front, back, hrequest⟩ := h c.modelId
  refine ⟨front, back, fun t => ?_⟩
  obtain ⟨one, hone, -, honeText⟩ := hrequest (t.fill 'a')
  obtain ⟨other, hother, -, hotherText⟩ := hrequest (t.fill 'b')
  rw [embeddingBody, hone, hother]
  change Except.ok (LooseText.ofFillings _ _ _) = _
  rw [honeText, hotherText, ← LooseText.filled_framed front back rfl t,
    ← LooseText.filled_framed front back rfl t, ← LooseText.halves_framed front back t,
    LooseText.ofFillings_filled (by decide)]

/-- The body of a string is the body of the request that is made of it. -/
theorem embeddingBody_ofString (s : String) :
    c.embeddingBody (.ofString s) =
      (c.route.adapter.embeddingRequest c.modelId (.text s)).map
        fun payload => .ofString (Object.bodyText payload) := by
  rw [embeddingBody, LooseText.fill_ofString, LooseText.fill_ofString]
  cases c.route.adapter.embeddingRequest c.modelId (.text s) with
  | error f => rfl
  | ok payload =>
    have hsame := LooseText.ofFillings_filled (show 'a' ≠ 'b' by decide)
      ((Object.bodyText payload).toList.map .char)
    rw [LooseText.halves_chars, LooseText.filled_chars, LooseText.filled_chars] at hsame
    change Except.ok (LooseText.ofFillings (LooseText.halves (s.toList.map .char)) _ _) = _
    rw [LooseText.halves_chars, hsame]
    rfl

/-- A text with a half has a body without an encoding, for the first half in it. -/
theorem embeddingBody_half (h : c.route.adapter.TakesTexts) (s : String) (n : Fin 0x800)
    (rest : LooseText) :
    ∃ body f, c.embeddingBody (.ofString s ++ .half n :: rest) = .ok body ∧
      Utf8.encodeLoose body = .error f ∧ f.first = n := by
  obtain ⟨front, back, hbody⟩ := c.embeddingBody_framed h
  have hfault := Utf8.encodeLooseFrom_half (front ++ s.toList.flatMap (Json.writeChar false)) n
    (rest.flatMap CodePoint.written ++ back.map .char) 0
  rw [← LooseText.framed_half] at hfault
  exact ⟨_, _, hbody _, hfault, rfl⟩

end Client
end ModelGateway
