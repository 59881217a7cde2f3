import ModelGateway.Proofs.Json.Float

/-!
# The characters of numbers

Integers and finite doubles are written with the ten digits, two signs, a point and the letter of an
exponent. What can be said of these characters can be said of the text of a number.
-/
namespace ModelGateway

def numberChars : List Char :=
  ['0', '1', '2', '3', '4', '5', '6', '7', '8', '9', '+', '-', '.', 'e']

theorem mem_numberChars_of_isDigit {c : Char} (h : Numeral.isDigit c = true) : c ∈ numberChars := by
  have hdigits : ∀ n < 58, 48 ≤ n → Char.ofNat n ∈ numberChars := by decide
  simp only [Numeral.isDigit, Bool.and_eq_true, decide_eq_true_eq] at h
  have hlow : 48 ≤ c.toNat := h.1
  have hhigh : c.toNat ≤ 57 := h.2
  have hmem := hdigits c.toNat (by omega) hlow
  rwa [Char.ofNat_toNat] at hmem

theorem mem_numberChars_of_mem_sign {negative : Bool} {c : Char} (h : c ∈ Json.sign negative) :
    c ∈ numberChars := by
  cases negative with
  | true =>
    obtain rfl := List.mem_singleton.mp h
    decide
  | false => cases h

theorem mem_numberChars_of_mem_intText {n : Int} {c : Char} (h : c ∈ (intText n).toList) :
    c ∈ numberChars := by
  cases n with
  | ofNat k =>
    rw [intText, String.toList_ofList] at h
    exact mem_numberChars_of_isDigit (Numeral.isDigit_of_mem_decimalDigits h)
  | negSucc k =>
    rw [intText, String.toList_ofList] at h
    rcases List.mem_cons.mp h with rfl | h
    · decide
    · exact mem_numberChars_of_isDigit (Numeral.isDigit_of_mem_decimalDigits h)

theorem Json.Spelling.mem_numberChars_of_mem_text {s : Json.Spelling} (hs : s.Valid) {c : Char}
    (h : c ∈ s.text) : c ∈ numberChars := by
  rcases List.mem_append.mp h with hwhole | h
  · exact mem_numberChars_of_isDigit (hs.whole.all_digits c hwhole)
  rcases List.mem_append.mp h with hfraction | hexponent
  · unfold fractionPart at hfraction
    split at hfraction
    · cases hfraction
    · rcases List.mem_cons.mp hfraction with rfl | hfraction
      · decide
      · exact mem_numberChars_of_isDigit (hs.fraction c hfraction)
  · unfold exponentPart at hexponent
    split at hexponent
    · cases hexponent
    · rename_i negative digits he
      rcases List.mem_cons.mp hexponent with rfl | hexponent
      · decide
      rcases List.mem_cons.mp hexponent with rfl | hexponent
      · cases negative <;> decide
      · exact mem_numberChars_of_isDigit ((hs.exponent _ he).1 c hexponent)

namespace Json

/-- The text of a double is longer than its whole part: it has a fraction or an exponent. -/
theorem Spelling.two_le_length_text {s : Spelling} (hs : s.Valid)
    (hdouble : ¬(s.fraction = [] ∧ s.exponent = none)) : 2 ≤ s.text.length := by
  have hwhole : 0 < s.whole.length := List.length_pos_iff.mpr hs.whole.nonempty
  have hparts : 0 < s.fractionPart.length + s.exponentPart.length := by
    by_cases hfraction : s.fraction = []
    · cases hexponent : s.exponent with
      | none => exact absurd ⟨hfraction, hexponent⟩ hdouble
      | some e =>
        simp only [exponentPart, hexponent, List.length_cons]
        omega
    · simp only [fractionPart, if_neg hfraction, List.length_cons]
      omega
  simp only [text, List.length_append]
  omega

/-- A finite double is written in at least two characters, all of them characters of numbers. -/
theorem writeFloat_finite (negative : Bool) (m : Magnitude) :
    2 ≤ (writeFloat (.finite negative m)).length ∧
      ∀ c ∈ writeFloat (.finite negative m), c ∈ numberChars := by
  obtain ⟨s, htext, hvalid, hdouble, _⟩ := exists_spelling_finite negative m
  rw [htext]
  constructor
  · have hlength := Spelling.two_le_length_text hvalid hdouble
    rw [List.length_append]
    omega
  · intro c hc
    rcases List.mem_append.mp hc with hc | hc
    · exact mem_numberChars_of_mem_sign hc
    · exact Spelling.mem_numberChars_of_mem_text hvalid hc

end Json
end ModelGateway
