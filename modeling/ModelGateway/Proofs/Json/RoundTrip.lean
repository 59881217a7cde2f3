import ModelGateway.Body
import ModelGateway.Proofs.Json.Float
import ModelGateway.Proofs.Json.Text
import ModelGateway.Proofs.Text.Utf8
import Mathlib.Data.List.Forall2

/-!
# What is written as JSON reads back

`ReadsAs` says that a text is read as a value whatever delimiter follows it, so that the texts of
items and members can be put into the text of a list or an object. Every plain value is read back
from its text in every style that keeps the order of keys, and so is every plain request body.
-/
namespace ModelGateway

namespace Json

/-! ## White space -/

/-- A text starts with a character that is neither white space nor closes anything. -/
def Starts (cs : List Char) : Prop :=
  ∃ c rest, cs = c :: rest ∧ c.toNat < 128 ∧ isSpace c = false ∧ c ≠ ']' ∧ c ≠ '}'

theorem Starts.append {cs : List Char} (h : Starts cs) (more : List Char) : Starts (cs ++ more) := by
  obtain ⟨c, rest, rfl, hc⟩ := h
  exact ⟨c, rest ++ more, rfl, hc⟩

theorem skipSpace_cons {c : Char} {cs : List Char} (h : isSpace c = false) :
    skipSpace (c :: cs) = c :: cs := by
  unfold skipSpace
  rw [List.dropWhile_cons_of_neg (by rw [h]; decide)]

theorem skipSpace_append {spaces : List Char} (h : ∀ c ∈ spaces, isSpace c = true)
    (cs : List Char) : skipSpace (spaces ++ cs) = skipSpace cs :=
  List.dropWhile_append_of_pos h

theorem Starts.skipSpace {cs : List Char} (h : Starts cs) : skipSpace cs = cs := by
  obtain ⟨c, rest, rfl, _, hc, _⟩ := h
  exact skipSpace_cons hc

theorem delimited_cons {c : Char} {rest : List Char} (h : isDelimiter c = true) :
    Delimited (c :: rest) := by
  intro d hd
  obtain rfl := Option.some.inj hd
  exact h

theorem delimited_append {spaces rest : List Char} (h : ∀ c ∈ spaces, isSpace c = true)
    (hrest : Delimited rest) : Delimited (spaces ++ rest) := by
  cases spaces with
  | nil => exact hrest
  | cons c spaces =>
    apply delimited_cons
    rw [isDelimiter, h c List.mem_cons_self, Bool.or_true]

/-- A separator with nothing but white space behind its character. -/
def Separator (c : Char) (separator : List Char) : Prop :=
  ∃ spaces, separator = c :: spaces ∧ ∀ d ∈ spaces, isSpace d = true

/-- A style whose separators are a comma and a colon, and which keeps the order of keys. -/
structure Style.Faithful (style : Style) : Prop where
  comma : Separator ',' style.comma
  colon : Separator ':' style.colon
  ordered : style.sortKeys = false

theorem separator_spaced (c : Char) : Separator c [c, ' '] := by
  refine ⟨[' '], rfl, ?_⟩
  intro d hd
  obtain rfl := List.mem_singleton.mp hd
  rfl

theorem separator_bare (c : Char) : Separator c [c] := ⟨[], rfl, nofun⟩

theorem Style.faithful_line : Style.line.Faithful :=
  ⟨separator_spaced ',', separator_spaced ':', rfl⟩

theorem Style.faithful_indented : Style.indented.Faithful :=
  ⟨separator_bare ',', separator_spaced ':', rfl⟩

theorem Style.isSpace_of_mem_lineBreak {style : Style} {level : Nat} {c : Char}
    (h : c ∈ style.lineBreak level) : isSpace c = true := by
  unfold Style.lineBreak at h
  split at h
  · cases h
  · rcases List.mem_cons.mp h with rfl | h
    · rfl
    · obtain rfl := List.eq_of_mem_replicate h
      rfl

/-! ## Texts of values -/

/-- A text is read as a value, whatever delimiter follows it. -/
structure ReadsAs (text : List Char) (v : Value) : Prop where
  starts : Starts text
  reads : ∀ fuel rest, 2 * text.length ≤ fuel → Delimited rest →
    readValue fuel (text ++ rest) = .ok (v, rest)

/-- It is enough to read with some fuel left. -/
theorem readsAs_of_succ {text : List Char} {v : Value} (hstarts : Starts text)
    (h : ∀ fuel rest, 2 * text.length ≤ fuel + 1 → Delimited rest →
      readValue (fuel + 1) (text ++ rest) = .ok (v, rest)) : ReadsAs text v := by
  refine ⟨hstarts, ?_⟩
  intro fuel rest hfuel hrest
  obtain ⟨c, cs, rfl, _⟩ := hstarts
  obtain ⟨fuel, rfl⟩ : ∃ n, fuel = n + 1 := ⟨fuel - 1, by rw [List.length_cons] at hfuel; omega⟩
  exact h fuel rest hfuel hrest

theorem readsAs_null : ReadsAs "null".toList .null :=
  readsAs_of_succ ⟨'n', ['u', 'l', 'l'], rfl, by decide⟩ fun _ _ _ _ => rfl

theorem readsAs_true : ReadsAs "true".toList (.bool true) :=
  readsAs_of_succ ⟨'t', ['r', 'u', 'e'], rfl, by decide⟩ fun _ _ _ _ => rfl

theorem readsAs_false : ReadsAs "false".toList (.bool false) :=
  readsAs_of_succ ⟨'f', ['a', 'l', 's', 'e'], rfl, by decide⟩ fun _ _ _ _ => rfl

theorem starts_of_isDigit {c : Char} {rest : List Char} (h : Numeral.isDigit c = true) :
    Starts (c :: rest) := by
  refine ⟨c, rest, rfl, ?_, ?_, ?_, ?_⟩
  · have hnine : c ≤ '9' := of_decide_eq_true (Bool.and_eq_true_iff.mp h).2
    exact Nat.lt_of_le_of_lt hnine (by decide)
  · cases hs : isSpace c with
    | false => rfl
    | true =>
      simp only [isSpace, Bool.or_eq_true, beq_iff_eq, or_assoc] at hs
      obtain rfl | rfl | rfl | rfl := hs <;> cases h
  · rintro rfl
    cases h
  · rintro rfl
    cases h

theorem starts_number (negative : Bool) {whole : List Char} (h : Whole whole) (more : List Char) :
    Starts (sign negative ++ (whole ++ more)) := by
  obtain ⟨c, rest, rfl, hc⟩ := h.exists_cons
  cases negative with
  | true => exact ⟨'-', c :: rest ++ more, rfl, by decide⟩
  | false => exact starts_of_isDigit hc

theorem readsAs_integer (negative : Bool) (n : Nat) :
    ReadsAs (sign negative ++ decimalDigits n) (.int (if negative then -(n : Int) else n)) := by
  have hvalid : Spelling.Valid ⟨decimalDigits n, [], none⟩ :=
    ⟨whole_decimalDigits n, nofun, nofun⟩
  have htext : decimalDigits n = Spelling.text ⟨decimalDigits n, [], none⟩ :=
    (List.append_nil _).symm
  refine readsAs_of_succ ?_ ?_
  · rw [htext]
    exact starts_number negative hvalid.whole _
  · intro fuel rest _ hrest
    rw [List.append_assoc, htext, Spelling.readValue_text hvalid negative fuel hrest,
      if_pos ⟨rfl, rfl⟩, Numeral.natOfDigits_decimalDigits]

theorem readsAs_int (n : Int) : ReadsAs (intText n).toList (.int n) := by
  cases n with
  | ofNat k =>
    rw [intText, String.toList_ofList]
    exact readsAs_integer false k
  | negSucc k =>
    rw [intText, String.toList_ofList]
    exact readsAs_integer true (k + 1)

theorem readsAs_float (x : Binary64) : ReadsAs (writeFloat x) (.float x) := by
  cases x with
  | nan => exact readsAs_of_succ ⟨'N', ['a', 'N'], rfl, by decide⟩ fun _ _ _ _ => rfl
  | infinite negative =>
    cases negative with
    | false =>
      exact readsAs_of_succ ⟨'I', "nfinity".toList, rfl, by decide⟩ fun _ _ _ _ => rfl
    | true => exact readsAs_of_succ ⟨'-', "Infinity".toList, rfl, by decide⟩ fun _ _ _ _ => rfl
  | finite negative m =>
    obtain ⟨s, htext, hvalid, hdouble, hvalue⟩ := exists_spelling_finite negative m
    rw [htext]
    refine readsAs_of_succ (starts_number negative hvalid.whole _) ?_
    intro fuel rest _ hrest
    rw [List.append_assoc, Spelling.readValue_text hvalid negative fuel hrest, if_neg hdouble,
      hvalue]

theorem readsAs_text (asciiOnly : Bool) (s : String) : ReadsAs (writeText asciiOnly s) (.text s) := by
  refine readsAs_of_succ ⟨'"', _, rfl, by decide⟩ ?_
  intro fuel rest _ _
  rw [writeText, List.cons_append, List.append_assoc, List.singleton_append, readValue,
    readText_flatMap]
  exact congrArg (fun s => Except.ok (Value.text s, rest)) String.ofList_toList

/-! ## Texts of lists -/

section Lists

variable {spaces closing rest : List Char}

theorem starts_intercalate (separator : List Char) {texts : List (List Char)}
    (h : ∀ t ∈ texts, Starts t) (hne : texts ≠ []) : Starts (separator.intercalate texts) := by
  cases texts with
  | nil => exact absurd rfl hne
  | cons t texts =>
    have ht := h t List.mem_cons_self
    cases texts with
    | nil =>
      rw [List.intercalate_singleton]
      exact ht
    | cons u texts =>
      rw [List.intercalate_cons_cons, List.append_assoc]
      exact ht.append _

theorem starts_of_readsAs {texts : List (List Char)} {items : List Value}
    (h : List.Forall₂ ReadsAs texts items) : ∀ t ∈ texts, Starts t := by
  induction h with
  | nil => exact nofun
  | cons hv _ ih =>
    intro t ht
    rcases List.mem_cons.mp ht with rfl | ht
    · exact hv.starts
    · exact ih t ht

theorem readItems_last {fuel : Nat} {cs after : List Char} {v : Value}
    (hread : readValue fuel cs = .ok (v, after)) (hafter : skipSpace after = ']' :: rest) :
    readItems (fuel + 1) cs = .ok ([v], rest) := by
  simp only [readItems, hread, hafter, bind, Except.bind, pure, Except.pure]

theorem readItems_next {fuel : Nat} {cs after more : List Char} {v : Value} {items : List Value}
    (hread : readValue fuel cs = .ok (v, after)) (hafter : skipSpace after = ',' :: more)
    (hmore : readItems fuel (skipSpace more) = .ok (items, rest)) :
    readItems (fuel + 1) cs = .ok (v :: items, rest) := by
  simp only [readItems, hread, hafter, hmore, bind, Except.bind, pure, Except.pure]

/-- Items are read up to the closing bracket; each comma pays for the step to the next item. -/
theorem readItems_intercalate {texts : List (List Char)} {items : List Value}
    (h : List.Forall₂ ReadsAs texts items) (hne : texts ≠ [])
    (hspaces : ∀ c ∈ spaces, isSpace c = true) (hclosing : ∀ c ∈ closing, isSpace c = true)
    {fuel : Nat} (hfuel : 2 * (List.intercalate (',' :: spaces) texts).length + 1 ≤ fuel) :
    readItems fuel (List.intercalate (',' :: spaces) texts ++ (closing ++ ']' :: rest)) =
      .ok (items, rest) := by
  induction h generalizing fuel with
  | nil => exact absurd rfl hne
  | @cons text v texts items hv htail ih =>
    obtain ⟨fuel, rfl⟩ : ∃ n, fuel = n + 1 := ⟨fuel - 1, by omega⟩
    cases texts with
    | nil =>
      cases htail
      rw [List.intercalate_singleton] at hfuel ⊢
      refine readItems_last (hv.reads fuel _ (by omega) ?_) ?_
      · exact delimited_append hclosing (delimited_cons rfl)
      · rw [skipSpace_append hclosing, skipSpace_cons rfl]
    | cons next texts =>
      have hstarts : Starts (List.intercalate (',' :: spaces) (next :: texts)) :=
        starts_intercalate _ (starts_of_readsAs htail) (List.cons_ne_nil _ _)
      rw [List.intercalate_cons_cons] at hfuel ⊢
      rw [List.append_assoc, List.append_assoc, List.cons_append]
      simp only [List.length_append, List.length_cons] at hfuel
      refine readItems_next (hv.reads fuel _ (by omega) ?_) (skipSpace_cons rfl) ?_
      · exact delimited_cons rfl
      · rw [skipSpace_append hspaces, (hstarts.append _).skipSpace]
        exact ih (List.cons_ne_nil _ _) (by omega)

theorem readValue_list {fuel : Nat} {inner cs : List Char} {items : List Value}
    (hskip : skipSpace inner = cs) (hcs : Starts cs)
    (hitems : readItems fuel cs = .ok (items, rest)) :
    readValue (fuel + 1) ('[' :: inner) = .ok (.list items, rest) := by
  rw [readValue, hskip]
  split
  · obtain ⟨c, more, hcons, _, _, hc, _⟩ := hcs
    exact absurd (List.cons.inj hcons).1.symm hc
  · rw [hitems]
    rfl

end Lists

/-- Between its brackets a style puts white space around the texts and behind each comma. -/
theorem enclose_append {style : Style} {spaces : List Char} (hcomma : style.comma = ',' :: spaces)
    (level : Nat) (opening closing : Char) {texts : List (List Char)} (hne : texts ≠ [])
    (rest : List Char) :
    enclose style level opening closing texts ++ rest =
      opening :: (style.lineBreak (level + 1) ++
        (List.intercalate (',' :: (spaces ++ style.lineBreak (level + 1))) texts ++
          (style.lineBreak level ++ closing :: rest))) := by
  have hempty : texts.isEmpty = false := List.isEmpty_eq_false_iff.mpr hne
  unfold enclose
  rw [hempty, if_neg (by decide), hcomma]
  simp only [List.cons_append, List.append_assoc, List.nil_append]

/-- Texts between brackets are read as a value if they are behind the white space that a style
writes, and in front of that which it writes before the closing bracket. -/
theorem readsAs_enclose {style : Style} (hs : style.Faithful) (level : Nat) {opening closing : Char}
    {texts : List (List Char)} {v : Value} (hopening : Starts [opening])
    (hstarts : ∀ t ∈ texts, Starts t) (hne : texts ≠ [])
    (hread : ∀ {spaces after fuel inner cs rest}, (∀ c ∈ spaces, isSpace c = true) →
      (∀ c ∈ after, isSpace c = true) →
      cs = List.intercalate (',' :: spaces) texts ++ (after ++ closing :: rest) →
      skipSpace inner = cs → Starts cs →
      2 * (List.intercalate (',' :: spaces) texts).length + 1 ≤ fuel →
      readValue (fuel + 1) (opening :: inner) = .ok (v, rest)) :
    ReadsAs (enclose style level opening closing texts) v := by
  obtain ⟨spaces, hcomma, hspaces⟩ := hs.comma
  have hbreak : ∀ {level}, ∀ c ∈ style.lineBreak level, isSpace c = true :=
    fun c => Style.isSpace_of_mem_lineBreak
  have hgap : ∀ c ∈ spaces ++ style.lineBreak (level + 1), isSpace c = true := by
    intro c hc
    rcases List.mem_append.mp hc with hc | hc
    · exact hspaces c hc
    · exact hbreak c hc
  have henclose := enclose_append hcomma level opening closing hne
  have hlength := congrArg List.length (henclose [])
  simp only [List.append_nil, List.length_cons, List.length_append] at hlength
  refine readsAs_of_succ ?_ ?_
  · rw [← List.append_nil (enclose style level opening closing texts), henclose,
      ← List.singleton_append]
    exact hopening.append _
  · intro fuel rest hfuel _
    have hinner := (starts_intercalate (',' :: (spaces ++ style.lineBreak (level + 1)))
      hstarts hne).append (style.lineBreak level ++ closing :: rest)
    rw [henclose]
    refine hread hgap hbreak rfl ?_ hinner (by omega)
    rw [skipSpace_append hbreak, hinner.skipSpace]

theorem readsAs_list {style : Style} (hs : style.Faithful) (level : Nat)
    {texts : List (List Char)} {items : List Value} (h : List.Forall₂ ReadsAs texts items) :
    ReadsAs (enclose style level '[' ']' texts) (.list items) := by
  by_cases hne : texts = []
  · subst hne
    cases h
    exact readsAs_of_succ ⟨'[', [']'], rfl, by decide⟩ fun _ _ _ _ => rfl
  · refine readsAs_enclose hs level ⟨'[', [], rfl, by decide⟩ (starts_of_readsAs h) hne ?_
    intro spaces after fuel inner cs rest hspaces hafter hcs hskip hstarts hfuel
    refine readValue_list hskip hstarts ?_
    rw [hcs]
    exact readItems_intercalate h hne hspaces hafter hfuel

/-! ## Texts of objects -/

def memberText (style : Style) (m : String × List Char) : List Char :=
  writeText style.asciiOnly m.1 ++ style.colon ++ m.2

/-- The written members have the keys of an object and are read as its values. -/
def ReadAsMembers (texts : List (String × List Char)) (members : List (String × Value)) : Prop :=
  List.Forall₂ (fun t m => t.1 = m.1 ∧ ReadsAs t.2 m.2) texts members

section Objects

variable {style : Style} {spaces closing rest : List Char}

theorem starts_memberText (m : String × List Char) : Starts (memberText style m) :=
  ⟨'"', _, rfl, by decide⟩

theorem starts_of_mem_memberTexts {texts : List (String × List Char)} {t : List Char}
    (h : t ∈ texts.map (memberText style)) : Starts t := by
  obtain ⟨m, _, rfl⟩ := List.mem_map.mp h
  exact starts_memberText m

/-- A member is read up to the delimiter behind its value. -/
theorem readMembers_memberText (hs : style.Faithful) {key : String} {text after : List Char}
    {v : Value} (h : ReadsAs text v) {fuel : Nat} (hfuel : 2 * text.length ≤ fuel)
    (hafter : Delimited after) :
    readMembers (fuel + 1) (memberText style (key, text) ++ after) =
      match skipSpace after with
      | '}' :: rest => .ok ([(key, v)], rest)
      | ',' :: rest => do
        let (members, rest) ← readMembers fuel (skipSpace rest)
        return ((key, v) :: members, rest)
      | rest => .error ⟨.comma, rest⟩ := by
  obtain ⟨spaces, hcolon, hspaces⟩ := hs.colon
  have hshape : memberText style (key, text) ++ after =
      '"' :: (key.toList.flatMap (writeChar style.asciiOnly) ++
        '"' :: (':' :: (spaces ++ (text ++ after)))) := by
    rw [memberText, hcolon, writeText]
    simp only [List.cons_append, List.append_assoc, List.nil_append]
  have hvalue : readValue fuel (skipSpace (spaces ++ (text ++ after))) = .ok (v, after) := by
    rw [skipSpace_append hspaces, (h.starts.append _).skipSpace, h.reads fuel after hfuel hafter]
  rw [hshape, readMembers, readText_flatMap]
  simp only [bind, Except.bind, skipSpace_cons (show isSpace ':' = false from rfl), hvalue,
    String.ofList_toList]
  rfl

theorem readMembers_last (hs : style.Faithful) {key : String} {text after : List Char} {v : Value}
    (h : ReadsAs text v) {fuel : Nat} (hfuel : 2 * text.length ≤ fuel) (hdelimited : Delimited after)
    (hafter : skipSpace after = '}' :: rest) :
    readMembers (fuel + 1) (memberText style (key, text) ++ after) = .ok ([(key, v)], rest) := by
  rw [readMembers_memberText hs h hfuel hdelimited, hafter]
  rfl

theorem readMembers_next (hs : style.Faithful) {key : String} {text after more : List Char}
    {v : Value} {members : List (String × Value)} (h : ReadsAs text v) {fuel : Nat}
    (hfuel : 2 * text.length ≤ fuel) (hdelimited : Delimited after)
    (hafter : skipSpace after = ',' :: more)
    (hmore : readMembers fuel (skipSpace more) = .ok (members, rest)) :
    readMembers (fuel + 1) (memberText style (key, text) ++ after) =
      .ok ((key, v) :: members, rest) := by
  rw [readMembers_memberText hs h hfuel hdelimited, hafter]
  change (readMembers fuel (skipSpace more) >>= _) = _
  rw [hmore]
  rfl

/-- Members are read up to the closing brace. -/
theorem readMembers_intercalate (hs : style.Faithful) {texts : List (String × List Char)}
    {members : List (String × Value)} (h : ReadAsMembers texts members) (hne : texts ≠ [])
    (hspaces : ∀ c ∈ spaces, isSpace c = true) (hclosing : ∀ c ∈ closing, isSpace c = true)
    {fuel : Nat}
    (hfuel : 2 * (List.intercalate (',' :: spaces) (texts.map (memberText style))).length + 1 ≤ fuel) :
    readMembers fuel (List.intercalate (',' :: spaces) (texts.map (memberText style)) ++
      (closing ++ '}' :: rest)) = .ok (members, rest) := by
  induction h generalizing fuel with
  | nil => exact absurd rfl hne
  | @cons t m texts members hm htail ih =>
    obtain ⟨key, text⟩ := t
    obtain ⟨key', v⟩ := m
    obtain ⟨rfl, hv⟩ : key = key' ∧ ReadsAs text v := hm
    obtain ⟨fuel, rfl⟩ : ∃ n, fuel = n + 1 := ⟨fuel - 1, by omega⟩
    have hlength : text.length < (memberText style (key, text)).length := by
      simp only [memberText, writeText, List.length_append, List.length_cons]
      omega
    cases texts with
    | nil =>
      cases htail
      rw [List.map_singleton, List.intercalate_singleton] at hfuel ⊢
      refine readMembers_last hs hv (by omega) ?_ ?_
      · exact delimited_append hclosing (delimited_cons rfl)
      · rw [skipSpace_append hclosing, skipSpace_cons rfl]
    | cons next texts =>
      have hstarts :
          Starts (List.intercalate (',' :: spaces) ((next :: texts).map (memberText style))) :=
        starts_intercalate _ (fun _ => starts_of_mem_memberTexts) (List.cons_ne_nil _ _)
      rw [List.map_cons, List.map_cons, List.intercalate_cons_cons, ← List.map_cons] at hfuel ⊢
      rw [List.append_assoc, List.append_assoc, List.cons_append]
      simp only [List.length_append, List.length_cons] at hfuel
      refine readMembers_next hs hv (by omega) (delimited_cons rfl) (skipSpace_cons rfl) ?_
      rw [skipSpace_append hspaces, (hstarts.append _).skipSpace]
      exact ih (List.cons_ne_nil _ _) (by omega)

theorem readValue_object {fuel : Nat} {inner cs : List Char} {members : List (String × Value)}
    (hskip : skipSpace inner = cs) (hcs : Starts cs)
    (hmembers : readMembers fuel cs = .ok (members, rest)) :
    readValue (fuel + 1) ('{' :: inner) = .ok (.object (Object.ofMembers members), rest) := by
  rw [readValue, hskip]
  split
  · obtain ⟨c, more, hcons, _, _, _, hc⟩ := hcs
    exact absurd (List.cons.inj hcons).1.symm hc
  · rw [hmembers]
    rfl

end Objects

end Json

namespace Object

theorem put_of_not_mem {o : Object} {key : String} (v : Value) (h : key ∉ o.map Prod.fst) :
    put o key v = o ++ [(key, v)] := by
  induction o with
  | nil => rfl
  | cons m rest ih =>
    obtain ⟨k, w⟩ := m
    have hk : k ≠ key := fun heq => h (heq ▸ List.mem_cons_self)
    rw [put, if_neg hk, ih fun hmem => h (List.mem_cons_of_mem _ hmem)]
    rfl

theorem putAll_of_nodup {o other : Object} (h : ((o ++ other).map Prod.fst).Nodup) :
    putAll o other = o ++ other := by
  induction other generalizing o with
  | nil => exact (List.append_nil o).symm
  | cons m other ih =>
    obtain ⟨key, v⟩ := m
    have hkey : key ∉ o.map Prod.fst := by
      rw [List.map_append, List.map_cons] at h
      intro hmem
      exact (List.nodup_append.mp h).2.2 key hmem key List.mem_cons_self rfl
    have hcons : o ++ (key, v) :: other = o ++ [(key, v)] ++ other :=
      (List.append_assoc o [(key, v)] other).symm
    rw [hcons] at h ⊢
    rw [← ih h, ← put_of_not_mem v hkey]
    rfl

/-- Members with distinct keys leave themselves when they are put in order. -/
theorem ofMembers_of_nodup {members : Object} (h : (members.map Prod.fst).Nodup) :
    ofMembers members = members :=
  putAll_of_nodup h

end Object

namespace Json

theorem readsAs_object {style : Style} (hs : style.Faithful) (level : Nat)
    {texts : List (String × List Char)} {members : List (String × Value)}
    (h : ReadAsMembers texts members) (hkeys : (members.map Prod.fst).Nodup) :
    ReadsAs (enclose style level '{' '}' (texts.map (memberText style))) (.object members) := by
  by_cases hne : texts = []
  · subst hne
    cases h
    exact readsAs_of_succ ⟨'{', ['}'], rfl, by decide⟩ fun _ _ _ _ => rfl
  · refine readsAs_enclose hs level ⟨'{', [], rfl, by decide⟩
      (fun _ => starts_of_mem_memberTexts) (fun hnil => hne (List.map_eq_nil_iff.mp hnil)) ?_
    intro spaces after fuel inner cs rest hspaces hafter hcs hskip hstarts hfuel
    rw [← Object.ofMembers_of_nodup hkeys]
    refine readValue_object hskip hstarts ?_
    rw [hcs]
    exact readMembers_intercalate hs h hne hspaces hafter hfuel

/-! ## Plain values -/

mutual

/-- Whether a value is plain: no tuple and no chat message stands anywhere in it, and no object has
a key twice. -/
def isPlain : Value → Bool
  | .list items => arePlainItems items
  | .object members => decide (members.map Prod.fst).Nodup && arePlainMembers members
  | .tuple _ => false
  | .message .. => false
  | _ => true

def arePlainItems : List Value → Bool
  | [] => true
  | v :: vs => isPlain v && arePlainItems vs

def arePlainMembers : List (String × Value) → Bool
  | [] => true
  | (_, v) :: rest => isPlain v && arePlainMembers rest

end

mutual

/-- A plain value is read back from its text at every level of nesting. -/
theorem readsAs_write {style : Style} (hs : style.Faithful) (level : Nat) (v : Value)
    (h : isPlain v = true) : ReadsAs (write style level v) v := by
  cases v with
  | null => exact readsAs_null
  | bool b =>
    cases b with
    | true => exact readsAs_true
    | false => exact readsAs_false
  | int n => exact readsAs_int n
  | float x => exact readsAs_float x
  | text s => exact readsAs_text style.asciiOnly s
  | list items =>
    rw [write]
    rw [isPlain] at h
    exact readsAs_list hs level (readsAs_writeItems hs (level + 1) items h)
  | tuple items => cases h
  | object members =>
    rw [isPlain, Bool.and_eq_true] at h
    rw [write, arrange, hs.ordered, if_neg (by decide)]
    exact readsAs_object hs level (readAsMembers_writeMembers hs (level + 1) members h.2)
      (of_decide_eq_true h.1)
  | message role content => cases h

theorem readsAs_writeItems {style : Style} (hs : style.Faithful) (level : Nat) (items : List Value)
    (h : arePlainItems items = true) : List.Forall₂ ReadsAs (writeItems style level items) items := by
  cases items with
  | nil => exact .nil
  | cons v vs =>
    rw [arePlainItems, Bool.and_eq_true] at h
    rw [writeItems]
    exact .cons (readsAs_write hs level v h.1) (readsAs_writeItems hs level vs h.2)

theorem readAsMembers_writeMembers {style : Style} (hs : style.Faithful) (level : Nat)
    (members : List (String × Value)) (h : arePlainMembers members = true) :
    ReadAsMembers (writeMembers style level members) members := by
  cases members with
  | nil => exact .nil
  | cons m rest =>
    obtain ⟨key, v⟩ := m
    rw [arePlainMembers, Bool.and_eq_true] at h
    rw [writeMembers]
    exact .cons ⟨rfl, readsAs_write hs level v h.1⟩ (readAsMembers_writeMembers hs level rest h.2)

end

/-- A document with nothing but the text of a value, and white space after it, holds that value. -/
theorem readDocument_of_readsAs {text : List Char} {v : Value} (h : ReadsAs text v)
    (spaces : List Char) (hspaces : ∀ c ∈ spaces, isSpace c = true) : readDocument (text ++ spaces) = .ok v := by
  have hstarts := h.starts
  have hdelimited : Delimited spaces := by
    rw [← List.append_nil spaces]
    exact delimited_append hspaces nofun
  have hread := h.reads (2 * (text ++ spaces).length + 1) spaces
    (by rw [List.length_append]; omega) hdelimited
  have hend : skipSpace spaces = [] := by
    rw [← List.append_nil spaces, skipSpace_append hspaces]
    rfl
  unfold readDocument
  split
  · rename_i hmark
    obtain ⟨c, rest, rfl, hc, _⟩ := hstarts
    obtain rfl := (List.cons.inj hmark).1
    exact absurd hc (by decide)
  · rw [(hstarts.append spaces).skipSpace, hread]
    dsimp only [bind, Except.bind]
    rw [hend]
    rfl

/-- Reading gives back the plain value that was written. -/
theorem parse_render {style : Style} (hs : style.Faithful) {v : Value} (h : isPlain v = true) :
    parse (render style v) = .ok v := by
  have hread := readDocument_of_readsAs (readsAs_write hs 0 v h) [] nofun
  rw [List.append_nil] at hread
  unfold parse render
  rw [String.toList_ofList, hread]
  rfl

/-- So does reading a line on which the value was printed. -/
theorem parse_render_line {style : Style} (hs : style.Faithful) {v : Value}
    (h : isPlain v = true) : parse (render style v ++ "\n") = .ok v := by
  have hread := readDocument_of_readsAs (readsAs_write hs 0 v h) ['\n']
    (List.forall_mem_singleton.mpr rfl)
  unfold parse render
  rw [String.toList_append, String.toList_ofList, show "\n".toList = ['\n'] from rfl, hread]
  rfl

end Json

/-! ## Bodies -/

theorem Object.bodyText_ne_empty {payload : Object} (h : Json.isPlain (.object payload) = true) :
    payload.bodyText ≠ "" := by
  obtain ⟨c, rest, hcons, _⟩ := (Json.readsAs_write Json.Style.faithful_line 0 _ h).starts
  intro hempty
  have htext := congrArg String.toList hempty
  rw [bodyText, Json.render, String.toList_ofList, hcons] at htext
  cases htext

/-- A plain payload comes back from its body, with the order of its keys, whether or not the body
has to hold an object. -/
theorem Body.object_encodeBody (payload : Object) (strict : Bool)
    (h : Json.isPlain (.object payload) = true) :
    (Body.octets payload.encodeBody).object strict = .ok payload := by
  have hdecode : (Body.octets payload.encodeBody).decode = .ok payload := by
    unfold Body.decode Object.encodeBody
    dsimp only
    rw [Utf8.decode_encode]
    dsimp only
    rw [decodeText, if_neg (Object.bodyText_ne_empty h), Object.bodyText,
      Json.parse_render Json.Style.faithful_line h]
  rw [Body.object, hdecode]

/-- A nested payload with texts that have to be escaped, both kinds of numbers and a character
beyond the first plane. -/
theorem Body.object_encodeBody_nested :
    Json.isPlain (.object [("prompt", .text "\"a\\b\"\n\u0001é😀"), ("n", .int (-12)),
      ("t", .list [.float 0.5, .null, .bool true, .object [("", .text ""), ("t", .list [])]])]) =
        true ∧
    (Body.octets (Object.encodeBody [("prompt", .text "\"a\\b\"\n\u0001é😀"), ("n", .int (-12)),
      ("t", .list [.float 0.5, .null, .bool true,
        .object [("", .text ""), ("t", .list [])]])])).object true =
      .ok [("prompt", .text "\"a\\b\"\n\u0001é😀"), ("n", .int (-12)),
        ("t", .list [.float 0.5, .null, .bool true, .object [("", .text ""), ("t", .list [])]])] :=
  ⟨by decide, Body.object_encodeBody _ true (by decide)⟩

end ModelGateway
