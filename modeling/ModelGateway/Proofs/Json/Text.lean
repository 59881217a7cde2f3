import ModelGateway.Json.Reader
import ModelGateway.Json.Writer

/-!
# Texts between quotes read back

A written character is one character, an escape of one letter, the escape of a code unit, or those
of a surrogate pair. Each form is read as the character it stands for, with no surrogate held at
its end, so the forms can be put one behind the other.
-/
namespace ModelGateway.Json

theorem hexValue?_hexDigit : ∀ d < 16, hexValue? (hexDigit d) = some d := by decide

theorem codeUnit?_hexDigits {n : Nat} (h : n < 0x10000) :
    codeUnit? (hexDigit (n / 4096 % 16)) (hexDigit (n / 256 % 16)) (hexDigit (n / 16 % 16))
      (hexDigit (n % 16)) = some n := by
  unfold codeUnit?
  rw [hexValue?_hexDigit _ (Nat.mod_lt _ (by decide)),
    hexValue?_hexDigit _ (Nat.mod_lt _ (by decide)),
    hexValue?_hexDigit _ (Nat.mod_lt _ (by decide)),
    hexValue?_hexDigit _ (Nat.mod_lt _ (by decide))]
  apply congrArg some
  omega

variable {opening : List Char} {held : Option Nat} {tail : List Char}

theorem readText_close : readText opening none ('"' :: tail) = .ok ([], tail) := by
  rw [readText]
  rfl

theorem readText_escape {c x : Char} (h : escapedChar? c = some x) :
    readText opening none ('\\' :: c :: tail) = prepend [x] (readText opening none tail) := by
  have hu : c ≠ 'u' := by
    rintro rfl
    cases h
  rw [readText, if_neg hu, h]
  · rfl
  · exact fun _ _ _ _ _ _ hc => absurd hc hu

theorem readText_plain {c : Char} (hquote : c ≠ '"') (hslash : c ≠ '\\') (hcontrol : 32 ≤ c.toNat) :
    readText opening none (c :: tail) = prepend [c] (readText opening none tail) := by
  rw [readText, if_neg hslash, if_neg (Nat.not_lt.mpr hcontrol)]
  · rfl
  · exact hquote
  · exact fun _ _ _ _ _ _ hc => absurd hc hslash
  · exact fun _ _ hc => absurd hc hslash

theorem readText_unit {n : Nat} (h : n < 0x10000) (htail : tail ≠ []) :
    readText opening held (unitEscape n ++ tail) =
      prepend (joinUnit held n).1 (readText opening (joinUnit held n).2 tail) := by
  cases tail with
  | nil => exact absurd rfl htail
  | cons e rest =>
    rw [unitEscape, List.cons_append, List.cons_append, List.cons_append, List.cons_append,
      List.cons_append, List.cons_append, List.nil_append, readText, codeUnit?_hexDigits h]

theorem prepend_prepend (first second : List Char)
    (read : Except Halt (List Char × List Char)) :
    prepend first (prepend second read) = prepend (first ++ second) read := by
  cases read with
  | error h => rfl
  | ok read =>
    obtain ⟨text, rest⟩ := read
    simp only [prepend, Except.map, List.append_assoc]

theorem isHighSurrogate_iff {n : Nat} : isHighSurrogate n = true ↔ 0xD800 ≤ n ∧ n < 0xDC00 := by
  simp only [isHighSurrogate, Bool.and_eq_true, decide_eq_true_eq]

theorem isLowSurrogate_iff {n : Nat} : isLowSurrogate n = true ↔ 0xDC00 ≤ n ∧ n < 0xE000 := by
  simp only [isLowSurrogate, Bool.and_eq_true, decide_eq_true_eq]

theorem joinUnit_char (c : Char) : joinUnit none c.toNat = ([c], none) := by
  have hrange : c.toNat < 0xD800 ∨ 0xDFFF < c.toNat ∧ c.toNat < 0x110000 := c.valid
  have hhigh : ¬isHighSurrogate c.toNat := by
    rw [isHighSurrogate_iff]
    omega
  have hlow : ¬isLowSurrogate c.toNat := by
    rw [isLowSurrogate_iff]
    omega
  rw [joinUnit, if_neg hhigh, if_neg hlow, Char.ofNat_toNat]
  rfl

theorem joinUnit_high {n : Nat} (h : 0xD800 ≤ n) (h' : n < 0xDC00) :
    joinUnit none n = ([], some n) := by
  rw [joinUnit, if_pos (isHighSurrogate_iff.mpr ⟨h, h'⟩)]
  rfl

theorem joinUnit_low {high n : Nat} (h : 0xDC00 ≤ n) (h' : n < 0xE000) :
    joinUnit (some high) n = ([pairChar high n], none) := by
  have hhigh : ¬isHighSurrogate n := by
    rw [isHighSurrogate_iff]
    omega
  rw [joinUnit, if_neg hhigh, if_pos (isLowSurrogate_iff.mpr ⟨h, h'⟩)]

theorem pairChar_surrogates (c : Char) (h : 0x10000 ≤ c.toNat) :
    pairChar (0xD800 + (c.toNat - 0x10000) / 0x400) (0xDC00 + (c.toNat - 0x10000) % 0x400) = c := by
  have hcode : 0x10000 + (0xD800 + (c.toNat - 0x10000) / 0x400 - 0xD800) * 0x400 +
      (0xDC00 + (c.toNat - 0x10000) % 0x400 - 0xDC00) = c.toNat := by
    omega
  rw [pairChar, hcode, Char.ofNat_toNat]

/-- The escapes of a character are read as that character. -/
theorem readText_codeEscape (c : Char) (htail : tail ≠ []) :
    readText opening none (codeEscape c.toNat ++ tail) =
      prepend [c] (readText opening none tail) := by
  have hrange : c.toNat < 0xD800 ∨ 0xDFFF < c.toNat ∧ c.toNat < 0x110000 := c.valid
  unfold codeEscape
  split
  · rename_i hn
    rw [readText_unit hn htail, joinUnit_char]
  · rename_i hn
    -- The high surrogate is held until the low one completes the pair.
    rw [List.append_assoc, readText_unit (by omega) (by simp [unitEscape]),
      joinUnit_high (by omega) (by omega)]
    dsimp only
    rw [readText_unit (by omega) htail, joinUnit_low (by omega) (by omega),
      pairChar_surrogates c (Nat.le_of_not_lt hn), prepend_prepend]
    rfl

/-- A character is written as an escape of one letter, as the escape of its code, or as itself. -/
theorem writeChar_cases (asciiOnly : Bool) (c : Char) :
    (∃ letter, escapedChar? letter = some c ∧ writeChar asciiOnly c = ['\\', letter]) ∨
      writeChar asciiOnly c = codeEscape c.toNat ∨
        (c ≠ '"' ∧ c ≠ '\\' ∧ 32 ≤ c.toNat ∧ writeChar asciiOnly c = [c]) := by
  fun_cases writeChar asciiOnly c
  case case1 hc => exact .inl ⟨'"', congrArg some hc.symm, rfl⟩
  case case2 hc => exact .inl ⟨'\\', congrArg some hc.symm, rfl⟩
  case case3 hc => exact .inl ⟨'n', congrArg some hc.symm, rfl⟩
  case case4 hc => exact .inl ⟨'r', congrArg some hc.symm, rfl⟩
  case case5 hc => exact .inl ⟨'t', congrArg some hc.symm, rfl⟩
  case case6 hc => exact .inl ⟨'f', congrArg some hc.symm, rfl⟩
  case case7 hc => exact .inl ⟨'b', congrArg some hc.symm, rfl⟩
  case case8 hcontrol =>
    refine .inr (.inl ?_)
    rw [codeEscape, if_pos (by omega)]
  case case9 => exact .inr (.inl rfl)
  case case10 hquote hslash _ _ _ _ _ hcontrol _ =>
    exact .inr (.inr ⟨hquote, hslash, Nat.le_of_not_lt hcontrol, rfl⟩)

/-- A written character is read as itself, whatever the text after it. -/
theorem readText_writeChar (asciiOnly : Bool) (c : Char) (htail : tail ≠ []) :
    readText opening none (writeChar asciiOnly c ++ tail) =
      prepend [c] (readText opening none tail) := by
  obtain ⟨letter, hletter, hwrite⟩ | hwrite | ⟨hquote, hslash, hcontrol, hwrite⟩ :=
    writeChar_cases asciiOnly c
  · rw [hwrite]
    exact readText_escape hletter
  · rw [hwrite]
    exact readText_codeEscape c htail
  · rw [hwrite]
    exact readText_plain hquote hslash hcontrol

/-- The characters between the quotes are read up to the closing quote. -/
theorem readText_flatMap (asciiOnly : Bool) (cs rest : List Char) :
    readText opening none (cs.flatMap (writeChar asciiOnly) ++ '"' :: rest) = .ok (cs, rest) := by
  induction cs with
  | nil => exact readText_close
  | cons c cs ih =>
    rw [List.flatMap_cons, List.append_assoc,
      readText_writeChar asciiOnly c (List.append_ne_nil_of_right_ne_nil _ (List.cons_ne_nil _ _)),
      ih]
    rfl

end ModelGateway.Json
