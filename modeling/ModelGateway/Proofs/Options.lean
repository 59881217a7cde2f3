import ModelGateway.Options
import ModelGateway.Proofs.Text.Case

/-!
# What an option comes to

An option that counts as missing has no text; any other has its display without surrounding blanks,
and reading that text as an option again gives it unchanged.
-/
namespace ModelGateway

/-- A text that is not empty and has no blanks around it. -/
def Text.IsTrim (s : String) : Prop := s ≠ "" ∧ Text.strip s = s

theorem nonBlank?_eq_some_iff {s text : String} :
    nonBlank? s = some text ↔ text ≠ "" ∧ Text.strip s = text := by
  unfold nonBlank?
  dsimp only
  split
  · rename_i hblank
    rw [hblank]
    constructor
    · exact nofun
    · rintro ⟨hne, rfl⟩
      exact absurd rfl hne
  · rename_i hne
    constructor
    · intro h
      obtain rfl := Option.some.inj h
      exact ⟨hne, rfl⟩
    · rintro ⟨_, rfl⟩
      rfl

theorem nonBlank?_eq_none_iff {s : String} : nonBlank? s = none ↔ Text.strip s = "" := by
  unfold nonBlank?
  dsimp only
  split
  · rename_i hblank
    exact ⟨fun _ => hblank, fun _ => rfl⟩
  · rename_i hne
    exact ⟨nofun, fun h => absurd h hne⟩

theorem isTrim_of_nonBlank? {s text : String} (h : nonBlank? s = some text) : Text.IsTrim text := by
  obtain ⟨hne, rfl⟩ := nonBlank?_eq_some_iff.mp h
  exact ⟨hne, Text.strip_strip s⟩

theorem nonBlank?_of_isTrim {text : String} (h : Text.IsTrim text) : nonBlank? text = some text :=
  nonBlank?_eq_some_iff.mpr h

namespace Value

theorem displayOrEmpty_text (s : String) : (Value.text s).displayOrEmpty = s := by
  unfold displayOrEmpty
  split
  · rfl
  · rename_i h
    exact (by simpa [isTruthy] using h : s = "").symm

theorem isTrim_of_optionalText {v : Value} {text : String} (h : v.optionalText = some text) :
    Text.IsTrim text := isTrim_of_nonBlank? h

theorem optionalText_of_isTrim {text : String} (h : Text.IsTrim text) :
    (Value.text text).optionalText = some text := by
  rw [optionalText, displayOrEmpty_text]
  exact nonBlank?_of_isTrim h

/-- The text of an option, read as an option. -/
theorem optionalText_ofText? (v : Value) : (ofText? v.optionalText).optionalText = v.optionalText := by
  cases h : v.optionalText with
  | none => rfl
  | some text => exact optionalText_of_isTrim (isTrim_of_optionalText h)

end Value

/-! ## Options and the environment -/

namespace Options

/-- That options name a text for a key, or that they leave it blank and the environment names one for
the key in uppercase. -/
inductive Names (options : Options) (env : Environment) (key text : String) : Prop where
  | option (h : Text.strip (options.value key).displayOrEmpty = text) (hne : text ≠ "")
  | environment (hblank : Text.strip (options.value key).displayOrEmpty = "") {given : String}
      (hgiven : env.value? (Text.upper key) = some given) (h : Text.strip given = text)
      (hne : text ≠ "")

variable {options : Options} {env : Environment} {key text : String}

theorem text?_eq_some_iff : options.text? env key = some text ↔ options.Names env key text := by
  unfold text? Value.optionalText
  cases hoption : nonBlank? (options.value key).displayOrEmpty with
  | some found =>
    obtain ⟨hne, hfound⟩ := nonBlank?_eq_some_iff.mp hoption
    constructor
    · intro h
      obtain rfl := Option.some.inj h
      exact .option hfound hne
    · rintro (⟨h, _⟩ | ⟨hblank, _⟩)
      · exact congrArg some (hfound.symm.trans h)
      · exact absurd (hfound.symm.trans hblank) hne
  | none =>
    have hblank := nonBlank?_eq_none_iff.mp hoption
    change (env.value? (Text.upper key)).bind nonBlank? = some text ↔ _
    rw [Option.bind_eq_some_iff]
    constructor
    · rintro ⟨given, hgiven, h⟩
      obtain ⟨hne, htext⟩ := nonBlank?_eq_some_iff.mp h
      exact .environment hblank hgiven htext hne
    · rintro (⟨h, hne⟩ | ⟨_, hgiven, h, hne⟩)
      · exact absurd (h.symm.trans hblank) hne
      · exact ⟨_, hgiven, nonBlank?_eq_some_iff.mpr ⟨hne, h⟩⟩

theorem text?_eq_none_iff : options.text? env key = none ↔ ∀ text, ¬options.Names env key text := by
  rw [Option.eq_none_iff_forall_ne_some]
  exact forall_congr' fun text => not_congr text?_eq_some_iff

theorem Names.isTrim (h : options.Names env key text) : Text.IsTrim text := by
  cases h with
  | option h hne => exact ⟨hne, by rw [← h, Text.strip_strip]⟩
  | environment _ _ h hne => exact ⟨hne, by rw [← h, Text.strip_strip]⟩

/-- That an option means yes or no: a boolean means itself, any other option what its text says, and
a missing one its default. -/
inductive Means (options : Options) (env : Environment) (key : String) (default : Bool) :
    Bool → Prop where
  | bool {b : Bool} (h : options.value key = .bool b) : Means options env key default b
  | text {text : String} (hother : ∀ b, options.value key ≠ .bool b)
      (h : options.Names env key text) :
      Means options env key default (yesWords.contains (Text.lower text))
  | default (hother : ∀ b, options.value key ≠ .bool b) (h : ∀ text, ¬options.Names env key text) :
      Means options env key default default

theorem flag_means (options : Options) (env : Environment) (key : String) (default : Bool) :
    options.Means env key default (options.flag env key default) := by
  unfold flag
  split
  · rename_i b hb
    exact .bool hb
  · rename_i hother
    have hother' : ∀ b, options.value key ≠ .bool b := fun b hb => hother b hb
    cases htext : options.text? env key with
    | none => exact .default hother' (text?_eq_none_iff.mp htext)
    | some text =>
      have hnames := text?_eq_some_iff.mp htext
      have hyes : isYes (.text text) = yesWords.contains (Text.lower text) := by
        rw [isYes, Value.displayOrEmpty_text, hnames.isTrim.2]
      dsimp only
      rw [hyes]
      exact .text hother' hnames

end Options
end ModelGateway
