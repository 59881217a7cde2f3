import ModelGateway.Proofs.Json.Text
import ModelGateway.Proofs.Numeral
import Mathlib.Data.Bool.AllAny

/-!
# What is written without line breaks stays on one line

A style that gives no item a line of its own writes no control character, whatever the value: those
of its texts, at any depth, are escaped. So a text that is printed on a line has no other line end.
-/
namespace ModelGateway.Json

/-- A text without control characters, which here are those below the blank. -/
def NoControl (cs : List Char) : Prop := ∀ c ∈ cs, 32 ≤ c.toNat

instance (cs : List Char) : Decidable (NoControl cs) :=
  decidable_of_iff ((cs.all fun c => decide (32 ≤ c.toNat)) = true) List.all_iff_forall_prop

namespace NoControl

variable {cs more : List Char}

theorem append (h : NoControl cs) (hmore : NoControl more) : NoControl (cs ++ more) :=
  List.forall_mem_append.mpr ⟨h, hmore⟩

theorem cons {c : Char} (hc : 32 ≤ c.toNat) (h : NoControl cs) : NoControl (c :: cs) :=
  List.forall_mem_cons.mpr ⟨hc, h⟩

theorem intercalate {separator : List Char} {texts : List (List Char)}
    (hseparator : NoControl separator) (h : ∀ t ∈ texts, NoControl t) :
    NoControl (separator.intercalate texts) := by
  induction texts with
  | nil => exact nofun
  | cons t texts ih =>
    obtain ⟨ht, htexts⟩ := List.forall_mem_cons.mp h
    cases texts with
    | nil =>
      rw [List.intercalate_singleton]
      exact ht
    | cons u texts =>
      rw [List.intercalate_cons_cons]
      exact (ht.append hseparator).append (ih htexts)

/-- Numbers are written without control characters. -/
theorem of_numberChars (h : ∀ c ∈ cs, c ∈ numberChars) : NoControl cs := by
  have hnumber : NoControl numberChars := by decide
  intro c hc
  exact hnumber c (h c hc)

theorem newline_not_mem (h : NoControl cs) : '\n' ∉ cs := by
  intro hmem
  have hcode : 32 ≤ '\n'.toNat := h _ hmem
  exact absurd hcode (by decide)

end NoControl

/-! ## Texts -/

theorem noControl_unitEscape (n : Nat) : NoControl (unitEscape n) := by
  have hdigits : ∀ d < 16, 32 ≤ (hexDigit d).toNat := by decide
  have hdigit : ∀ m, 32 ≤ (hexDigit (m % 16)).toNat := fun m =>
    hdigits _ (Nat.mod_lt m (by decide))
  unfold unitEscape
  exact .cons (by decide) (.cons (by decide)
    (.cons (hdigit _) (.cons (hdigit _) (.cons (hdigit _) (.cons (hdigit _) nofun)))))

theorem noControl_codeEscape (n : Nat) : NoControl (codeEscape n) := by
  unfold codeEscape
  split
  · exact noControl_unitEscape _
  · exact (noControl_unitEscape _).append (noControl_unitEscape _)

theorem le_toNat_of_escapedChar? {letter c : Char} (h : escapedChar? letter = some c) :
    32 ≤ letter.toNat := by
  unfold escapedChar? at h
  split at h
  all_goals first
    | decide
    | cases h

theorem noControl_writeChar (asciiOnly : Bool) (c : Char) : NoControl (writeChar asciiOnly c) := by
  obtain ⟨letter, hletter, hwrite⟩ | hwrite | ⟨_, _, hcontrol, hwrite⟩ :=
    writeChar_cases asciiOnly c
  · rw [hwrite]
    exact .cons (by decide) (.cons (le_toNat_of_escapedChar? hletter) nofun)
  · rw [hwrite]
    exact noControl_codeEscape _
  · rw [hwrite]
    exact .cons hcontrol nofun

theorem noControl_writeText (asciiOnly : Bool) (s : String) : NoControl (writeText asciiOnly s) := by
  have hchars : NoControl (s.toList.flatMap (writeChar asciiOnly)) := by
    intro c hc
    obtain ⟨x, _, hx⟩ := List.mem_flatMap.mp hc
    exact noControl_writeChar asciiOnly x c hx
  exact .cons (by decide) (hchars.append (by decide))

theorem noControl_writeFloat (x : Binary64) : NoControl (writeFloat x) := by
  cases x with
  | nan => decide
  | infinite negative => cases negative <;> decide
  | finite negative m => exact .of_numberChars (writeFloat_finite negative m).2

/-! ## Values -/

/-- A style that breaks no line and separates items and keys without control characters. -/
structure Style.Inline (style : Style) : Prop where
  indent : style.indent = none
  comma : NoControl style.comma
  colon : NoControl style.colon

theorem Style.inline_line : Style.line.Inline := ⟨rfl, by decide, by decide⟩

variable {style : Style}

theorem Style.Inline.lineBreak (hs : style.Inline) (level : Nat) : style.lineBreak level = [] := by
  rw [Style.lineBreak, hs.indent]

theorem noControl_enclose (hs : style.Inline) (level : Nat) {opening closing : Char}
    (hopening : 32 ≤ opening.toNat) (hclosing : 32 ≤ closing.toNat) {texts : List (List Char)}
    (h : ∀ t ∈ texts, NoControl t) : NoControl (enclose style level opening closing texts) := by
  have hend : NoControl [closing] := .cons hclosing nofun
  unfold enclose
  split
  · exact .cons hopening hend
  · rw [hs.lineBreak, hs.lineBreak, List.append_nil, List.append_nil]
    exact .cons hopening ((NoControl.intercalate hs.comma h).append hend)

theorem mem_of_mem_arrange {members : List (String × List Char)} {m : String × List Char}
    (h : m ∈ arrange style members) : m ∈ members := by
  unfold arrange at h
  split at h
  · exact List.mem_mergeSort.mp h
  · exact h

mutual

theorem noControl_write (hs : style.Inline) (level : Nat) (v : Value) :
    NoControl (write style level v) := by
  cases v with
  | null =>
    rw [write]
    decide
  | bool b =>
    cases b with
    | true =>
      rw [write]
      decide
    | false =>
      rw [write]
      decide
  | int n => exact .of_numberChars fun _ => mem_numberChars_of_mem_intText
  | float x => exact noControl_writeFloat x
  | text s => exact noControl_writeText style.asciiOnly s
  | list items =>
    rw [write]
    exact noControl_enclose hs level (by decide) (by decide)
      (noControl_writeItems hs (level + 1) items)
  | tuple items =>
    rw [write]
    exact noControl_enclose hs level (by decide) (by decide)
      (noControl_writeItems hs (level + 1) items)
  | object members =>
    rw [write]
    refine noControl_enclose hs level (by decide) (by decide) ?_
    intro t ht
    obtain ⟨m, hm, rfl⟩ := List.mem_map.mp ht
    have hvalue := noControl_writeMembers hs (level + 1) members m (mem_of_mem_arrange hm)
    exact ((noControl_writeText style.asciiOnly m.1).append hs.colon).append hvalue
  | message role content =>
    rw [write]
    exact noControl_writeText style.asciiOnly _

theorem noControl_writeItems (hs : style.Inline) (level : Nat) (items : List Value) :
    ∀ t ∈ writeItems style level items, NoControl t := by
  cases items with
  | nil => exact nofun
  | cons v vs =>
    rw [writeItems]
    exact List.forall_mem_cons.mpr ⟨noControl_write hs level v, noControl_writeItems hs level vs⟩

theorem noControl_writeMembers (hs : style.Inline) (level : Nat) (members : Object) :
    ∀ m ∈ writeMembers style level members, NoControl m.2 := by
  cases members with
  | nil => exact nofun
  | cons m rest =>
    obtain ⟨key, v⟩ := m
    rw [writeMembers]
    exact List.forall_mem_cons.mpr
      ⟨noControl_write hs level v, noControl_writeMembers hs level rest⟩

end

/-- What is rendered without line breaks has no control character. -/
theorem noControl_render (hs : style.Inline) (v : Value) : NoControl (render style v).toList := by
  rw [render, String.toList_ofList]
  exact noControl_write hs 0 v

end ModelGateway.Json
