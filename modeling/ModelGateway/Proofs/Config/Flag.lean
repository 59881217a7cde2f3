import ModelGateway.Config
import ModelGateway.Proofs.Display
import ModelGateway.Proofs.Numeral
import ModelGateway.Proofs.Options
import Mathlib.Data.Bool.AllAny

/-!
# Two readings of a yes-or-no option

The same option is read in two ways: among the options that a program hands over, and as a part of the
effective configuration. Both know the same words and take booleans as they are. They part where the
first goes by the text of a value, which it takes for missing if it is blank and for a no if it is
another word, and the second goes by the kind of the value and has a word for the empty text.
-/
namespace ModelGateway

/-! ## Words -/

namespace Text

theorem settled_numberChars : ∀ c ∈ numberChars, Settled c ∧ isBlank c = false :=
  List.all_iff_forall_prop.mp (by decide +kernel)

/-- The text of a number is its own word. -/
theorem lower_strip_of_number {s : String} (h : ∀ c ∈ s.toList, c ∈ numberChars) :
    lower (strip s) = s := by
  have hstrip : strip s = s := by
    rw [strip_eq_self_iff]
    intro hne
    exact ⟨(settled_numberChars _ (h _ (List.head_mem hne))).2,
      (settled_numberChars _ (h _ (List.getLast_mem hne))).2⟩
  rw [hstrip, lower, lowerAfter_of_settled [] fun c hc => (settled_numberChars c (h c hc)).1,
    String.ofList_toList]

/-- A first character that is not blank stays in front when a text is stripped. -/
theorem strip_cons {c : Char} (h : isBlank c = false) (rest : List Char) :
    ∃ more, strip (String.ofList (c :: rest)) = String.ofList (c :: more) := by
  unfold strip trimWhile
  rw [String.toList_ofList, List.dropWhile_cons_of_neg (by simp [h]), dropEndWhile_eq]
  cases hdropped : (c :: rest).rdropWhile isBlank with
  | nil =>
    have hall := List.rdropWhile_eq_nil_iff.mp hdropped c List.mem_cons_self
    rw [h] at hall
    cases hall
  | cons d more =>
    obtain ⟨_, hprefix⟩ := hdropped ▸ List.rdropWhile_prefix isBlank (c :: rest)
    obtain rfl := (List.cons.inj hprefix).1
    exact ⟨more, rfl⟩

end Text

namespace Value

/-- The word that a value is read as: its display in lowercase, without blanks around it. -/
def word (v : Value) : String := Text.lower (Text.strip v.display)

/-- Whether a value is made of other values. -/
def isCompound : Value → Bool
  | list _ | tuple _ | object _ | message .. => true
  | _ => false

theorem display_of_compound {v : Value} (h : v.isCompound = true) :
    ∃ c ∈ ['[', '(', '{', 'C'], ∃ rest, v.display = String.ofList (c :: rest) := by
  cases v with
  | list items => exact ⟨'[', by decide, _, rfl⟩
  | tuple items =>
    rcases items with _ | ⟨_, _ | ⟨_, _⟩⟩
    · exact ⟨'(', by decide, _, rfl⟩
    · exact ⟨'(', by decide, _, rfl⟩
    · exact ⟨'(', by decide, _, rfl⟩
  | object members => exact ⟨'{', by decide, _, rfl⟩
  | message role content => exact ⟨'C', by decide, _, rfl⟩
  | _ => cases h

/-- What is made of other values is displayed in brackets or by name, so it is no word. -/
theorem word_of_compound {v : Value} (h : v.isCompound = true) :
    v.word ∉ Options.yesWords ∧ v.word ∉ Options.noWords ∧ v.word ≠ "" := by
  obtain ⟨c, hc, rest, hdisplay⟩ := display_of_compound h
  obtain ⟨hblank, hsigma, d, hd, hlower⟩ : Text.isBlank c = false ∧ c ≠ 'Σ' ∧
      ∃ d ∈ ['[', '(', '{', 'c'], Text.lowerChar c = [d] := by
    simp only [List.mem_cons, List.not_mem_nil, or_false] at hc
    rcases hc with rfl | rfl | rfl | rfl
    · exact ⟨by decide, by decide, '[', by decide, by decide +kernel⟩
    · exact ⟨by decide, by decide, '(', by decide, by decide +kernel⟩
    · exact ⟨by decide, by decide, '{', by decide, by decide +kernel⟩
    · exact ⟨by decide, by decide, 'c', by decide, by decide +kernel⟩
  obtain ⟨more, hstrip⟩ := Text.strip_cons hblank rest
  have hword : v.word.toList.head? = some d := by
    rw [word, hdisplay, hstrip, Text.lower, String.toList_ofList, String.toList_ofList,
      Text.lowerAfter, if_neg hsigma, hlower]
    rfl
  have hwords : ∀ w ∈ "" :: Options.yesWords ++ Options.noWords,
      w.toList.head? ∉ ['[', '(', '{', 'c'].map some := by decide
  have hother : v.word ∉ "" :: Options.yesWords ++ Options.noWords := by
    intro hmem
    refine hwords _ hmem ?_
    rw [hword]
    exact List.mem_map_of_mem hd
  simp only [List.cons_append, List.mem_cons, List.mem_append, not_or] at hother
  exact ⟨hother.2.1, hother.2.2, hother.1⟩

theorem eq_one_of_mem_yesWords {s : String} (h : ∀ c ∈ s.toList, c ∈ numberChars)
    (hyes : s ∈ Options.yesWords) : s = "1" := by
  have hwords : ∀ w ∈ Options.yesWords,
      (w.toList.all fun c => decide (c ∈ numberChars)) = true → w = "1" := by decide
  exact hwords s hyes (List.all_iff_forall_prop.mpr h)

theorem word_int (n : Int) : (int n).word = intText n := by
  have hdisplay : (int n).display = intText n := String.ofList_toList
  rw [word, hdisplay]
  exact Text.lower_strip_of_number fun _ => mem_numberChars_of_mem_intText

/-- The only integer that is read as a yes is one. -/
theorem word_int_mem_yesWords_iff (n : Int) : (int n).word ∈ Options.yesWords ↔ n = 1 := by
  rw [word_int]
  constructor
  · intro h
    have hone := congrArg String.toList
      (eq_one_of_mem_yesWords (fun _ => mem_numberChars_of_mem_intText) h)
    cases n with
    | ofNat k =>
      rw [intText, String.toList_ofList] at hone
      have hk := Numeral.natOfDigits_decimalDigits k
      rw [hone] at hk
      rw [← hk]
      rfl
    | negSucc k =>
      rw [intText, String.toList_ofList] at hone
      cases (List.cons.inj hone).1
  · rintro rfl
    decide

theorem word_int_ne_empty (n : Int) : (int n).word ≠ "" := by
  rw [word_int]
  exact mt String.toList_eq_nil_iff.mpr (intText_toList_ne_nil n)

/-- No double is read as a yes, and none as the empty word. -/
theorem word_float (x : Binary64) : (float x).word ∉ Options.yesWords ∧ (float x).word ≠ "" := by
  cases x with
  | nan => decide +kernel
  | infinite negative => cases negative <;> decide +kernel
  | finite negative m =>
    obtain ⟨hlength, hchars⟩ := Json.writeFloat_finite negative m
    have hdisplay : (float (.finite negative m)).display.toList =
      Json.writeFloat (.finite negative m) := String.toList_ofList
    rw [← hdisplay] at hlength hchars
    rw [word, Text.lower_strip_of_number hchars]
    constructor
    · intro hyes
      rw [eq_one_of_mem_yesWords hchars hyes] at hlength
      exact absurd hlength (by decide)
    · intro hempty
      rw [hempty] at hlength
      exact absurd hlength (by decide)

end Value

/-! ## The two readings -/

namespace Options

/-- What a value says among the options that are handed over: a boolean itself, any other value that
counts as present and is not blank whether its word is a yes, and the rest nothing. -/
def flagOf : Value → Bool → Bool
  | .bool b, _ => b
  | v, default =>
    if v.isTruthy = true ∧ v.word ≠ "" then yesWords.contains v.word else default

theorem flagOf_of_ne_bool {v : Value} (h : ∀ b, v ≠ .bool b) (default : Bool) :
    flagOf v default =
      if v.isTruthy = true ∧ v.word ≠ "" then yesWords.contains v.word else default := by
  rw [flagOf]
  exact h

/-- Where the environment names nothing, an option is what its value says. -/
theorem flag_eq_flagOf {options : Options} {env : Environment} {key : String}
    (henv : env.value? (Text.upper key) = none) (default : Bool) :
    options.flag env key default = flagOf (options.value key) default := by
  have hmeans := flag_means options env key default
  generalize options.flag env key default = b at hmeans
  have hword : (options.value key).word = "" ↔ Text.strip (options.value key).display = "" :=
    Text.lower_eq_empty_iff
  cases hmeans with
  | bool h =>
    rw [h]
    rfl
  | @text text hother hnames =>
    cases hnames with
    | environment _ hgiven => cases henv.symm.trans hgiven
    | option htext hne =>
      have htruthy : (options.value key).isTruthy = true := by
        by_contra hfalsy
        rw [Value.displayOrEmpty, if_neg hfalsy] at htext
        exact hne (htext.symm.trans rfl)
      rw [Value.displayOrEmpty, if_pos htruthy] at htext
      rw [flagOf_of_ne_bool hother, if_pos ⟨htruthy, by rw [Ne, hword, htext]; exact hne⟩, Value.word,
        htext]
  | default hother hnone =>
    rw [flagOf_of_ne_bool hother, if_neg]
    rintro ⟨htruthy, hne⟩
    refine hnone _ (.option rfl ?_)
    rw [Value.displayOrEmpty, if_pos htruthy]
    exact mt hword.mpr hne

theorem flagOf_int {n : Int} (h : n ≠ 0) (default : Bool) :
    flagOf (.int n) default = decide (n = 1) := by
  have htruthy : (Value.int n).isTruthy = true := by simpa [Value.isTruthy] using h
  rw [flagOf_of_ne_bool fun _ => Value.noConfusion, if_pos ⟨htruthy, Value.word_int_ne_empty n⟩]
  simp only [List.contains_eq_mem, Value.word_int_mem_yesWords_iff]

theorem flagOf_float {x : Binary64} (h : x.isZero = false) (default : Bool) :
    flagOf (.float x) default = false := by
  have htruthy : (Value.float x).isTruthy = true := by simpa [Value.isTruthy] using h
  obtain ⟨hyes, hne⟩ := Value.word_float x
  rw [flagOf_of_ne_bool fun _ => Value.noConfusion, if_pos ⟨htruthy, hne⟩]
  simpa using hyes

theorem flagOf_text (s : String) (default : Bool) :
    flagOf (.text s) default =
      if (Value.text s).word = "" then default else yesWords.contains (Value.text s).word := by
  have htruthy : (Value.text s).word ≠ "" → (Value.text s).isTruthy = true := by
    intro hne
    simp only [Value.isTruthy, bne_iff_ne]
    rintro rfl
    exact hne rfl
  rw [flagOf_of_ne_bool fun _ => Value.noConfusion]
  by_cases hempty : (Value.text s).word = ""
  · rw [if_neg fun h => h.2 hempty, if_pos hempty]
  · rw [if_pos ⟨htruthy hempty, hempty⟩, if_neg hempty]

theorem flagOf_compound {v : Value} (h : v.isCompound = true) (default : Bool) :
    flagOf v default = if v.isTruthy then false else default := by
  obtain ⟨hyes, _, hne⟩ := Value.word_of_compound h
  have hother : ∀ b, v ≠ .bool b := by
    rintro b rfl
    cases h
  rw [flagOf_of_ne_bool hother]
  cases htruthy : v.isTruthy with
  | true => simpa [hne] using hyes
  | false => simp

end Options

namespace Config

/-- A text is a yes or a no if its word is one. The empty word is a no, and every other word leaves it
at the default. -/
theorem coerceFlag_text (s : String) (default : Bool) :
    coerceFlag (.text s) default =
      if Options.yesWords.contains (Value.text s).word then true
      else if (Value.text s).word = "" ∨ Options.noWords.contains (Value.text s).word then false
      else default := rfl

theorem coerceFlag_compound {v : Value} (h : v.isCompound = true) (default : Bool) :
    coerceFlag v default = default := by
  obtain ⟨hyes, hno, hne⟩ := Value.word_of_compound h
  have hword : coerceFlag v default =
      if Options.yesWords.contains v.word then true
      else if v.word = "" ∨ Options.noWords.contains v.word then false
      else default := by
    cases v with
    | list | tuple | object | message => rfl
    | _ => cases h
  simp [hword, hyes, hno, hne]

/-- A number that is zero. -/
def IsZero : Value → Prop
  | .int n => n = 0
  | .float x => x.isZero = true
  | _ => False

/-- The values on which the two readings part, with what a program that hands them over gets: the
effective configuration has the opposite. -/
inductive Parts : Value → (default raw : Bool) → Prop where
  | int {n : Int} (hzero : n ≠ 0) (hone : n ≠ 1) (default : Bool) : Parts (.int n) default false
  | float {x : Binary64} (hzero : x.isZero = false) (default : Bool) : Parts (.float x) default false
  | blank {s : String} (h : Text.strip s = "") : Parts (.text s) true true
  | otherWord {s : String} (hne : (Value.text s).word ≠ "")
      (hyes : (Value.text s).word ∉ Options.yesWords)
      (hno : (Value.text s).word ∉ Options.noWords) : Parts (.text s) true false
  | compound {v : Value} (h : v.isCompound = true) (htruthy : v.isTruthy = true) : Parts v true false

/-- That two readings of a value agree and the value is none of those on which they part, or that they
part as is said of it. -/
def AgreeOrPart (v : Value) (default raw effective : Bool) : Prop :=
  (raw = effective ∧ ∀ b, ¬Parts v default b) ∨ (Parts v default raw ∧ effective = !raw)

theorem agreeOrPart_int {n : Int} (h : n ≠ 0) (default : Bool) :
    AgreeOrPart (.int n) default (Options.flagOf (.int n) default) (coerceFlag (.int n) default) := by
  have hyes : coerceFlag (.int n) default = true := bne_iff_ne.mpr h
  rw [Options.flagOf_int h, hyes]
  by_cases hone : n = 1
  · rw [decide_eq_true hone]
    refine .inl ⟨rfl, ?_⟩
    rintro _ (⟨_, hother, _⟩ | _ | _ | _ | ⟨⟨⟩, _⟩)
    exact hother hone
  · rw [decide_eq_false hone]
    exact .inr ⟨.int h hone default, rfl⟩

theorem agreeOrPart_float {x : Binary64} (h : x.isZero = false) (default : Bool) :
    AgreeOrPart (.float x) default (Options.flagOf (.float x) default)
      (coerceFlag (.float x) default) := by
  have hyes : coerceFlag (.float x) default = true := by rw [coerceFlag, h]; rfl
  rw [Options.flagOf_float h, hyes]
  exact .inr ⟨.float h default, rfl⟩

/-- A zero says nothing to either reading when the default is no. -/
theorem agreeOrPart_zero {v : Value} (h : IsZero v) :
    AgreeOrPart v false (Options.flagOf v false) (coerceFlag v false) := by
  cases v with
  | int n =>
    obtain rfl : n = 0 := h
    refine .inl ⟨rfl, ?_⟩
    rintro _ (⟨hother, _, _⟩ | _ | _ | _ | _)
    exact hother rfl
  | float x =>
    have htruthy : (Value.float x).isTruthy = false := by rw [Value.isTruthy, h]; rfl
    have hno : coerceFlag (.float x) false = false := by rw [coerceFlag, h]; rfl
    refine .inl ⟨?_, ?_⟩
    · rw [Options.flagOf_of_ne_bool fun _ => Value.noConfusion, htruthy, hno]
      simp
    · rintro _ (_ | ⟨hother, _⟩ | _ | _ | _)
      exact absurd (h.symm.trans hother) (by decide)
  | _ => cases h

theorem agreeOrPart_text (s : String) (default : Bool) :
    AgreeOrPart (.text s) default (Options.flagOf (.text s) default)
      (coerceFlag (.text s) default) := by
  rw [Options.flagOf_text, coerceFlag_text]
  by_cases hempty : (Value.text s).word = ""
  · rw [if_pos hempty, hempty]
    cases default with
    | true => exact .inr ⟨.blank (Text.lower_eq_empty_iff.mp hempty), rfl⟩
    | false => exact .inl ⟨rfl, nofun⟩
  rw [if_neg hempty]
  by_cases hyes : (Value.text s).word ∈ Options.yesWords
  · refine .inl ⟨by simp [hyes], ?_⟩
    rintro _ (_ | _ | hblank | ⟨_, hother, _⟩ | ⟨⟨⟩, _⟩)
    · exact hempty (Text.lower_eq_empty_iff.mpr hblank)
    · exact hother hyes
  by_cases hno : (Value.text s).word ∈ Options.noWords
  · refine .inl ⟨by simp [hyes, hno], ?_⟩
    rintro _ (_ | _ | hblank | ⟨_, _, hother⟩ | ⟨⟨⟩, _⟩)
    · exact hempty (Text.lower_eq_empty_iff.mpr hblank)
    · exact hother hno
  · simp only [List.contains_eq_mem, hyes, hno, hempty, decide_false, Bool.false_eq_true, or_self,
      if_false]
    cases default with
    | true => exact .inr ⟨.otherWord hempty hyes hno, rfl⟩
    | false => exact .inl ⟨rfl, nofun⟩

theorem agreeOrPart_compound {v : Value} (h : v.isCompound = true) (default : Bool) :
    AgreeOrPart v default (Options.flagOf v default) (coerceFlag v default) := by
  rw [Options.flagOf_compound h, coerceFlag_compound h]
  cases htruthy : v.isTruthy with
  | false =>
    refine .inl ⟨rfl, ?_⟩
    intro b hparts
    cases hparts with
    | compound _ hother => exact absurd (htruthy.symm.trans hother) (by decide)
    | _ => cases h
  | true =>
    cases default with
    | true => exact .inr ⟨.compound h htruthy, rfl⟩
    | false =>
      refine .inl ⟨rfl, ?_⟩
      rintro _ ⟨⟩ <;> cases h

/-- Where the environment names nothing, an option is read alike among the options that are handed over
and for the effective configuration, unless it is a number other than zero and the integer one, or the
default is yes and it is a blank text, a text that is no word, or made of other values. Of these the
effective configuration takes numbers for a yes, blank texts for a no, and the rest for missing; among
the options that are handed over blank texts are missing and the rest is a no. A zero whose default is
yes is left open. -/
theorem readings_agree_or_part (options : Options) (env : Environment) (key : String)
    (default : Bool) (henv : env.value? (Text.upper key) = none)
    (hzero : default = true → ¬IsZero (options.value key)) :
    AgreeOrPart (options.value key) default (options.flag env key default)
      (coerceFlag (options.value key) default) := by
  rw [Options.flag_eq_flagOf henv]
  by_cases hnumber : IsZero (options.value key)
  · obtain rfl : default = false := Bool.eq_false_iff.mpr fun hyes => hzero hyes hnumber
    exact agreeOrPart_zero hnumber
  cases hv : options.value key with
  | null => exact .inl ⟨rfl, nofun⟩
  | bool b => exact .inl ⟨rfl, nofun⟩
  | int n => exact agreeOrPart_int (fun h => hnumber (hv ▸ h)) default
  | float x =>
    refine agreeOrPart_float ?_ default
    rw [hv] at hnumber
    exact Bool.eq_false_iff.mpr hnumber
  | text s => exact agreeOrPart_text s default
  | list | tuple | object | message => exact agreeOrPart_compound rfl default

/-- Logging that is set to a word which is neither a yes nor a no. -/
theorem log_events_maybe_parts :
    Environment.value? [] (Text.upper "log_events") = none ∧
    (true = true → ¬IsZero (Options.value (some [("log_events", .text "maybe")]) "log_events")) ∧
    AgreeOrPart (.text "maybe") true
      (Options.flag (some [("log_events", .text "maybe")]) [] "log_events" true)
      (coerceFlag (.text "maybe") true) :=
  ⟨rfl, fun _ => nofun, readings_agree_or_part _ [] "log_events" true rfl fun _ => nofun⟩

/-- Handed over, such a word switches logging off; the effective configuration keeps it on. -/
theorem readings_can_part :
    ¬∀ (v : Value) (key : String) (default : Bool) (env : Environment),
      env.value? (Text.upper key) = none →
      Options.flag (some [(key, v)]) env key default = coerceFlag v default := by
  intro h
  have hsame := h (.text "maybe") "log_events" true [] rfl
  exact absurd hsame (by decide +kernel)

end Config
end ModelGateway
