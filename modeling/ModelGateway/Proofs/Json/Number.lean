import ModelGateway.Json.Reader

/-!
# Numbers read back

A number ends where its text ends only if nothing follows that it could go on with. Digits are
split off whole, a fraction and an exponent part are found where they are written, and a number
is never mistaken for a word.
-/
namespace ModelGateway

namespace Numeral

theorem natOfDigits_eq (digits : List Char) : natOfDigits digits = Nat.ofDigitChars 10 digits 0 := by
  unfold natOfDigits digitsValue
  rw [List.foldl_map]
  rfl

theorem natOfDigits_decimalDigits (n : Nat) : natOfDigits (decimalDigits n) = n := by
  rw [natOfDigits_eq]
  exact Nat.ofDigitChars_ten_toDigits

theorem isDigit_of_mem_decimalDigits {c : Char} {n : Nat} (h : c ∈ decimalDigits n) :
    isDigit c = true :=
  Nat.isDigit_of_mem_toDigits (by decide) (by decide) h

end Numeral

namespace Json

open Numeral (isDigit natOfDigits)

/-- The characters that may stand behind a value. -/
def isDelimiter (c : Char) : Bool := c == ',' || c == ']' || c == '}' || isSpace c

/-- Nothing follows, or a delimiter does. -/
def Delimited (rest : List Char) : Prop := ∀ c, rest.head? = some c → isDelimiter c = true

/-- No digit follows. -/
def EndsDigits (rest : List Char) : Prop := ∀ c, rest.head? = some c → isDigit c = false

theorem delimiter_cases {c : Char} (h : isDelimiter c = true) :
    c = ',' ∨ c = ']' ∨ c = '}' ∨ c = ' ' ∨ c = '\t' ∨ c = '\n' ∨ c = '\r' := by
  simpa [isDelimiter, isSpace, or_assoc] using h

theorem Delimited.endsDigits {rest : List Char} (h : Delimited rest) : EndsDigits rest := by
  intro c hc
  obtain rfl | rfl | rfl | rfl | rfl | rfl | rfl := delimiter_cases (h c hc) <;> decide

theorem endsDigits_cons {c : Char} {rest : List Char} (h : isDigit c = false) :
    EndsDigits (c :: rest) := by
  intro d hd
  obtain rfl := Option.some.inj hd
  exact h

theorem takeWhile_digits {digits rest : List Char} (h : ∀ c ∈ digits, isDigit c = true)
    (hrest : EndsDigits rest) : (digits ++ rest).takeWhile isDigit = digits := by
  rw [List.takeWhile_append_of_pos h]
  cases rest with
  | nil => exact List.append_nil digits
  | cons c rest =>
    rw [List.takeWhile_cons_of_neg (by simp [hrest c rfl]), List.append_nil]

theorem dropWhile_digits {digits rest : List Char} (h : ∀ c ∈ digits, isDigit c = true)
    (hrest : EndsDigits rest) : (digits ++ rest).dropWhile isDigit = rest := by
  rw [List.dropWhile_append_of_pos h]
  cases rest with
  | nil => rfl
  | cons c rest => rw [List.dropWhile_cons_of_neg (by simp [hrest c rfl])]

/-- The whole digits that a number is written with: a lone zero, or digits that start with none. -/
structure Whole (digits : List Char) : Prop where
  all_digits : ∀ c ∈ digits, isDigit c = true
  nonempty : digits ≠ []
  lone_zero : digits.head? = some '0' → digits = ['0']

theorem whole_zero : Whole ['0'] := by
  refine ⟨?_, List.cons_ne_nil _ _, fun _ => rfl⟩
  intro c hc
  obtain rfl := List.mem_singleton.mp hc
  rfl

theorem head?_append_of_ne_nil {cs : List Char} (more : List Char) (h : cs ≠ []) :
    (cs ++ more).head? = cs.head? := by
  cases cs with
  | nil => exact absurd rfl h
  | cons c cs => rfl

theorem whole_decimalDigits (n : Nat) : Whole (decimalDigits n) := by
  refine ⟨fun _ => Numeral.isDigit_of_mem_decimalDigits, Nat.toDigits_ne_nil, ?_⟩
  induction n using Nat.strongRecOn with
  | ind n ih =>
    unfold decimalDigits at ih ⊢
    rw [Nat.toDigits_eq_if (by decide)]
    split
    · intro h
      rw [Option.some.inj h]
    · rename_i hn
      intro h
      -- The first digit is that of `n / 10`, which would be zero.
      rw [head?_append_of_ne_nil _ Nat.toDigits_ne_nil] at h
      have hzero := Nat.ofDigitChars_ten_toDigits (n := n / 10)
      rw [ih (n / 10) (by omega) h] at hzero
      have : n / 10 = 0 := hzero.symm
      omega

theorem Whole.exists_cons {whole : List Char} (h : Whole whole) :
    ∃ c rest, whole = c :: rest ∧ isDigit c = true := by
  cases whole with
  | nil => exact absurd rfl h.nonempty
  | cons c rest => exact ⟨c, rest, rfl, h.all_digits c List.mem_cons_self⟩

theorem takeWhole_append {whole rest : List Char} (h : Whole whole) (hrest : EndsDigits rest) :
    takeWhole (whole ++ rest) = (whole, rest) := by
  cases whole with
  | nil => exact absurd rfl h.nonempty
  | cons c digits =>
    by_cases hc : c = '0'
    · subst c
      obtain rfl := (List.cons.inj (h.lone_zero rfl)).2
      rfl
    · rw [List.cons_append, takeWhole, ← List.cons_append, takeWhile_digits h.all_digits hrest,
        dropWhile_digits h.all_digits hrest]
      exact fun _ h => hc (List.cons.inj h).1

theorem takeFraction_digits {digits rest : List Char} (h : ∀ c ∈ digits, isDigit c = true)
    (hne : digits ≠ []) (hrest : EndsDigits rest) :
    takeFraction ('.' :: (digits ++ rest)) = (digits, rest) := by
  rw [takeFraction, takeWhile_digits h hrest, dropWhile_digits h hrest, if_neg]
  rwa [List.isEmpty_iff]

theorem takeFraction_of_ne {rest : List Char} (h : rest.head? ≠ some '.') :
    takeFraction rest = ([], rest) := by
  rw [takeFraction]
  rintro rest rfl
  exact h rfl

theorem Delimited.takeExponent {rest : List Char} (h : Delimited rest) :
    takeExponent rest = (none, rest) := by
  cases rest with
  | nil => rfl
  | cons c rest =>
    have hc := h c rfl
    have he : (c == 'e' || c == 'E') = false := by
      obtain rfl | rfl | rfl | rfl | rfl | rfl | rfl := delimiter_cases hc <;> decide
    rw [Json.takeExponent, he]
    rfl

theorem takeExponent_digits {digits rest : List Char} (negative : Bool)
    (h : ∀ c ∈ digits, isDigit c = true) (hne : digits ≠ []) (hrest : EndsDigits rest) :
    takeExponent ('e' :: (if negative then '-' else '+') :: (digits ++ rest)) =
      (some (if negative then -(natOfDigits digits : Int) else natOfDigits digits), rest) := by
  have hsign : Numeral.takeSign ((if negative then '-' else '+') :: (digits ++ rest)) =
      (negative, digits ++ rest) := by
    cases negative <;> rfl
  rw [takeExponent, hsign]
  dsimp only
  rw [takeWhile_digits h hrest, dropWhile_digits h hrest, if_pos (by rfl), if_neg]
  rwa [List.isEmpty_iff]

def sign (negative : Bool) : List Char := if negative then ['-'] else []

/-- A number is read from the parts that it is split into. -/
theorem readNumber_of_parts (negative : Bool) {whole fraction tail middle rest : List Char}
    {exponent : Option Int} (hwhole : Whole whole) (htail : EndsDigits tail)
    (hfraction : takeFraction tail = (fraction, middle))
    (hexponent : takeExponent middle = (exponent, rest)) :
    readNumber (sign negative ++ (whole ++ tail)) =
      if fraction.isEmpty && exponent.isNone then
        .ok (.int (if negative then -(natOfDigits whole : Int) else natOfDigits whole), rest)
      else
        .ok (.float (Binary64.ofDecimal negative
          (Numeral.decimal whole fraction (exponent.getD 0))), rest) := by
  obtain ⟨c, digits, hcons, hc⟩ := hwhole.exists_cons
  have hempty : whole.isEmpty = false := by
    rw [hcons]
    rfl
  have hminus : ∀ rest, whole ++ tail ≠ '-' :: rest := by
    intro rest h
    rw [hcons] at h
    rw [(List.cons.inj h).1] at hc
    exact absurd hc (by decide)
  have hparts : takeWhole (whole ++ tail) = (whole, tail) := takeWhole_append hwhole htail
  cases negative with
  | true =>
    rw [sign, if_pos rfl, List.singleton_append, readNumber]
    simp only [hparts, hfraction, hexponent, hempty, Bool.false_eq_true, if_false]
  | false =>
    rw [sign, if_neg (by decide), List.nil_append, readNumber]
    · simp only [hparts, hfraction, hexponent, hempty, Bool.false_eq_true, if_false]
    · exact hminus

theorem readWord?_eq_none {cs : List Char}
    (h : ∀ w ∈ words, w.1.toList.isPrefixOf cs = false) : readWord? cs = none := by
  apply List.findSome?_eq_none_iff.mpr
  rintro ⟨word, v⟩ hw
  have hword : word.toList.isPrefixOf cs = false := h _ hw
  simp only [after?, hword, Bool.false_eq_true, if_false, Option.map_none]

/-- A number starts with no word. -/
theorem readWord?_number (negative : Bool) {whole : List Char} (h : Whole whole)
    (tail : List Char) :
    readWord? (sign negative ++ (whole ++ tail)) = none := by
  obtain ⟨c, digits, rfl, hc⟩ := h.exists_cons
  have hne : ∀ {d : Char}, isDigit d = false → (d == c) = false := by
    intro d hd
    apply beq_false_of_ne
    rintro rfl
    exact absurd (hd.symm.trans hc) (by decide)
  have hn : ('n' == c) = false := hne rfl
  have ht : ('t' == c) = false := hne rfl
  have hf : ('f' == c) = false := hne rfl
  have hN : ('N' == c) = false := hne rfl
  have hI : ('I' == c) = false := hne rfl
  have hm : ('-' == c) = false := hne rfl
  apply readWord?_eq_none
  intro w hw
  simp only [words, List.mem_cons, List.not_mem_nil, or_false] at hw
  -- Only `-Infinity` starts like a negative number, and its second character is no digit.
  cases negative with
  | true => obtain rfl | rfl | rfl | rfl | rfl | rfl := hw <;> simp [sign, List.isPrefixOf, hI]
  | false =>
    obtain rfl | rfl | rfl | rfl | rfl | rfl := hw <;>
      simp [sign, List.isPrefixOf, hn, ht, hf, hN, hI, hm]

/-- A value that starts like a number is read as one. -/
theorem readValue_number (negative : Bool) {whole tail : List Char} (h : Whole whole) (fuel : Nat) :
    readValue (fuel + 1) (sign negative ++ (whole ++ tail)) =
      readNumber (sign negative ++ (whole ++ tail)) := by
  have hword := readWord?_number negative h tail
  obtain ⟨c, digits, rfl, hc⟩ := h.exists_cons
  have hstart : ∀ d ∈ ['"', '{', '['], ∀ rest,
      sign negative ++ (c :: digits ++ tail) ≠ d :: rest := by
    intro d hd rest heq
    cases negative with
    | true =>
      obtain rfl := (List.cons.inj heq).1
      exact absurd hd (by decide)
    | false =>
      obtain rfl := (List.cons.inj heq).1
      simp only [List.mem_cons, List.not_mem_nil, or_false] at hd
      obtain rfl | rfl | rfl := hd <;> exact absurd hc (by decide)
  rw [readValue, hword]
  · exact hstart _ (by decide)
  · exact hstart _ (by decide)
  · exact hstart _ (by decide)

/-- A number as it is written, without its sign. -/
structure Spelling where
  whole : List Char
  fraction : List Char
  /-- Whether the exponent is negative, and its digits. -/
  exponent : Option (Bool × List Char)

namespace Spelling

def fractionPart (s : Spelling) : List Char :=
  if s.fraction = [] then [] else '.' :: s.fraction

def exponentPart (s : Spelling) : List Char :=
  match s.exponent with
  | none => []
  | some (negative, digits) => 'e' :: (if negative then '-' else '+') :: digits

def text (s : Spelling) : List Char := s.whole ++ (s.fractionPart ++ s.exponentPart)

def exponentValue? (s : Spelling) : Option Int :=
  s.exponent.map fun (negative, digits) =>
    if negative then -(natOfDigits digits : Int) else natOfDigits digits

def decimal (s : Spelling) : Decimal :=
  Numeral.decimal s.whole s.fraction (s.exponentValue?.getD 0)

structure Valid (s : Spelling) : Prop where
  whole : Whole s.whole
  fraction : ∀ c ∈ s.fraction, isDigit c = true
  exponent : ∀ e ∈ s.exponent, (∀ c ∈ e.2, isDigit c = true) ∧ e.2 ≠ []

variable {s : Spelling} {rest : List Char}

theorem takeExponent_part (h : s.Valid) (hrest : Delimited rest) :
    takeExponent (s.exponentPart ++ rest) = (s.exponentValue?, rest) := by
  unfold exponentPart exponentValue?
  cases he : s.exponent with
  | none => exact hrest.takeExponent
  | some e =>
    obtain ⟨hdigits, hne⟩ := h.exponent e he
    exact takeExponent_digits e.1 hdigits hne hrest.endsDigits

theorem endsDigits_exponentPart (hrest : Delimited rest) :
    EndsDigits (s.exponentPart ++ rest) := by
  unfold exponentPart
  cases s.exponent with
  | none => exact hrest.endsDigits
  | some e => exact endsDigits_cons rfl

theorem takeFraction_part (h : s.Valid) (hrest : Delimited rest) :
    takeFraction (s.fractionPart ++ (s.exponentPart ++ rest)) =
      (s.fraction, s.exponentPart ++ rest) := by
  unfold fractionPart
  split
  · rename_i hnil
    rw [hnil, List.nil_append]
    apply takeFraction_of_ne
    unfold exponentPart
    cases s.exponent with
    | none => exact fun hdot => absurd (hrest '.' hdot) (by decide)
    | some e => exact fun hdot => absurd (Option.some.inj hdot) (by decide)
  · rename_i hne
    exact takeFraction_digits h.fraction hne (endsDigits_exponentPart hrest)

theorem endsDigits_fractionPart (hrest : Delimited rest) :
    EndsDigits (s.fractionPart ++ (s.exponentPart ++ rest)) := by
  unfold fractionPart
  split
  · exact endsDigits_exponentPart hrest
  · exact endsDigits_cons rfl

/-- A number without a fraction and an exponent is read as an integer, others as doubles. -/
theorem readValue_text (h : s.Valid) (negative : Bool) (fuel : Nat) (hrest : Delimited rest) :
    readValue (fuel + 1) (sign negative ++ (s.text ++ rest)) =
      if s.fraction = [] ∧ s.exponent = none then
        .ok (.int (if negative then -(natOfDigits s.whole : Int) else natOfDigits s.whole), rest)
      else .ok (.float (Binary64.ofDecimal negative s.decimal), rest) := by
  unfold text decimal
  rw [List.append_assoc, List.append_assoc, readValue_number negative h.whole,
    readNumber_of_parts negative h.whole (endsDigits_fractionPart hrest) (takeFraction_part h hrest)
      (takeExponent_part h hrest)]
  simp [exponentValue?]

end Spelling

end Json
end ModelGateway
