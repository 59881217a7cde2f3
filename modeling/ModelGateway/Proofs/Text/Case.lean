import ModelGateway.Text.Blank
import ModelGateway.Text.Case
import Mathlib.Data.List.DropRight

/-!
# Lowercase and stripped texts stay as they are

A text that has been stripped and then put in lowercase does not change when both are done again.
The tables decide it: what a run of the lowercase table maps to is in none of the runs, and is
neither blank nor a capital sigma.
-/
namespace ModelGateway.Text

/-! ## The lowercase table -/

namespace CaseRun

def lowest (r : CaseRun) : Nat := (r.first + r.offset).toNat
def highest (r : CaseRun) : Nat := (r.last + r.offset).toNat

/-- Whether nothing that `r` maps to is covered by `s`: it lies outside of `s`, or between the code
points of `s`, which are two apart. -/
def misses (r s : CaseRun) : Bool :=
  Nat.blt r.highest s.first || Nat.blt s.last r.lowest ||
    (s.step == 2 && (r.step == 2 || r.first == r.last) && (r.lowest + s.first) % 2 == 1)

def avoids (r : CaseRun) (range : Nat × Nat) : Bool :=
  Nat.blt r.highest range.1 || Nat.blt range.2 r.lowest

end CaseRun

/-- Code points that no run maps to: those of ASCII (but for `k`), the blanks, the two capitals with
a rule of their own, and the surrogates. -/
def untargeted : List (Nat × Nat) :=
  [(0, 106), (108, 127), (0x85, 0x85), (0xA0, 0xA0), (0x130, 0x130), (0x3A3, 0x3A3),
   (0x1680, 0x1680), (0x2000, 0x200A), (0x2028, 0x2029), (0x202F, 0x202F), (0x205F, 0x205F),
   (0x3000, 0x3000), (0xD800, 0xDFFF)]

theorem lowercaseRuns_miss :
    (lowercaseRuns.all fun r => lowercaseRuns.all r.misses) = true := by decide +kernel

theorem lowercaseRuns_avoid :
    (lowercaseRuns.all fun r => decide (0 ≤ r.first + r.offset) && Nat.blt r.highest 0x110000 &&
      untargeted.all r.avoids) = true := by decide +kernel

section Runs

variable {r s : CaseRun} {code : Nat}

theorem CaseRun.bounds_of_covers (h : r.covers code = true) :
    r.lowest ≤ (code + r.offset).toNat ∧ (code + r.offset).toNat ≤ r.highest := by
  simp only [covers, Bool.and_eq_true, decide_eq_true_eq] at h
  unfold lowest highest
  omega

theorem CaseRun.not_covers_of_misses (h : r.covers code = true) (hoffset : 0 ≤ r.first + r.offset)
    (hmiss : r.misses s = true) : s.covers (code + r.offset).toNat = false := by
  have hbounds := bounds_of_covers h
  rw [Bool.eq_false_iff]
  intro hs
  simp only [covers, Bool.and_eq_true, decide_eq_true_eq, beq_iff_eq] at h hs
  simp only [misses, Bool.or_eq_true, Nat.blt_eq, Bool.and_eq_true, beq_iff_eq] at hmiss
  rcases hmiss with (hbelow | habove) | ⟨⟨hstep, hparity⟩, hodd⟩
  · omega
  · omega
  · rw [hstep] at hs
    unfold lowest at hodd
    rcases hparity with htwo | hone
    · rw [htwo] at h
      omega
    · omega

theorem offset_nonneg (hr : r ∈ lowercaseRuns) : 0 ≤ r.first + r.offset := by
  have h := List.all_eq_true.mp lowercaseRuns_avoid r hr
  simp only [Bool.and_eq_true, decide_eq_true_eq] at h
  exact h.1.1

/-- What a run maps to is in none of the runs. -/
theorem target?_target (hr : r ∈ lowercaseRuns) (h : r.covers code = true) :
    CaseRun.target? lowercaseRuns (code + r.offset).toNat = none := by
  unfold CaseRun.target?
  rw [Option.map_eq_none_iff, List.find?_eq_none]
  intro s hs
  have hmiss := List.all_eq_true.mp (List.all_eq_true.mp lowercaseRuns_miss r hr) s hs
  rw [CaseRun.not_covers_of_misses h (offset_nonneg hr) hmiss]
  exact Bool.false_ne_true

theorem target_not_mem (hr : r ∈ lowercaseRuns) (h : r.covers code = true) :
    ∀ range ∈ untargeted,
      (code + r.offset).toNat < range.1 ∨ range.2 < (code + r.offset).toNat := by
  intro range hrange
  have hall := List.all_eq_true.mp lowercaseRuns_avoid r hr
  simp only [Bool.and_eq_true] at hall
  have havoids := List.all_eq_true.mp hall.2 range hrange
  simp only [CaseRun.avoids, Bool.or_eq_true, Nat.blt_eq] at havoids
  have hbounds := CaseRun.bounds_of_covers h
  omega

theorem target_lt (hr : r ∈ lowercaseRuns) (h : r.covers code = true) :
    (code + r.offset).toNat < 0x110000 := by
  have hall := List.all_eq_true.mp lowercaseRuns_avoid r hr
  simp only [Bool.and_eq_true, Nat.blt_eq] at hall
  exact Nat.lt_of_le_of_lt (CaseRun.bounds_of_covers h).2 hall.1.2

end Runs

/-! ## One character -/

/-- A character that is its own lowercase wherever it stands. -/
def Settled (c : Char) : Prop := c ≠ 'Σ' ∧ lowerChar c = [c]

instance (c : Char) : Decidable (Settled c) := inferInstanceAs (Decidable (_ ∧ _))

theorem settled_ascii : ∀ n < 128, Settled (Char.ofNat n).toLower ∧
    (isBlank (Char.ofNat n) = false → isBlank (Char.ofNat n).toLower = false) := by decide +kernel

/-- The character that a run maps to. -/
theorem settled_target {r : CaseRun} {code : Nat} (hr : r ∈ lowercaseRuns)
    (h : r.covers code = true) :
    Settled (Char.ofNat (code + r.offset).toNat) ∧
      isBlank (Char.ofNat (code + r.offset).toNat) = false := by
  have hnone := target?_target hr h
  have hout := target_not_mem hr h
  have hlt := target_lt hr h
  simp only [untargeted, List.forall_mem_cons] at hout
  generalize (code + r.offset).toNat = n at hnone hout hlt
  have hcode : (Char.ofNat n).toNat = n := by
    have hvalid : n.isValidChar := by
      rcases Nat.lt_or_ge n 0xD800 with hlow | _
      · exact .inl hlow
      · exact .inr ⟨by omega, hlt⟩
    rw [Char.ofNat, dif_pos hvalid]
    rfl
  refine ⟨⟨?_, ?_⟩, ?_⟩
  · intro hsigma
    rw [hsigma] at hcode
    have : 'Σ'.toNat = 0x3A3 := rfl
    omega
  · by_cases hascii : n < 128
    · obtain rfl : n = 107 := by omega
      rfl
    · have hcapital : Char.ofNat n ≠ '\u0130' := by
        intro heq
        rw [heq] at hcode
        have : '\u0130'.toNat = 0x130 := rfl
        omega
      rw [lowerChar, hcode, if_neg hascii, if_neg hcapital, hnone]
      rfl
  · unfold isBlank
    rw [hcode]
    simp only [Bool.or_eq_false_iff, Bool.and_eq_false_iff, decide_eq_false_iff_not,
      beq_eq_false_iff_ne]
    omega

/-- The lowercase of a character is settled throughout, and blank only if the character is. -/
theorem settled_lowerChar {c d : Char} (hc : c ≠ 'Σ') (hd : d ∈ lowerChar c) :
    Settled d ∧ (isBlank c = false → isBlank d = false) := by
  unfold lowerChar at hd
  by_cases hascii : c.toNat < 128
  · rw [if_pos hascii] at hd
    obtain rfl := List.mem_singleton.mp hd
    have h := settled_ascii c.toNat hascii
    rwa [Char.ofNat_toNat] at h
  by_cases hcapital : c = '\u0130'
  · rw [if_neg hascii, if_pos hcapital, List.mem_cons, List.mem_singleton] at hd
    rcases hd with rfl | rfl
    · exact ⟨by decide +kernel, fun _ => rfl⟩
    · exact ⟨by decide +kernel, fun _ => rfl⟩
  rw [if_neg hascii, if_neg hcapital] at hd
  obtain rfl := List.mem_singleton.mp hd
  cases htarget : CaseRun.target? lowercaseRuns c.toNat with
  | none =>
    refine ⟨⟨hc, ?_⟩, id⟩
    change lowerChar c = [c]
    rw [lowerChar, if_neg hascii, if_neg hcapital, htarget]
    rfl
  | some n =>
    obtain ⟨r, hfind, rfl⟩ := Option.map_eq_some_iff.mp htarget
    have hcovers : r.covers c.toNat = true := by
      simpa using List.find?_some hfind
    have h := settled_target (List.mem_of_find?_eq_some hfind) hcovers
    exact ⟨h.1, fun _ => h.2⟩

theorem lowerChar_ne_nil (c : Char) : lowerChar c ≠ [] := by
  unfold lowerChar
  split
  · exact List.cons_ne_nil _ _
  · split
    · exact List.cons_ne_nil _ _
    · exact List.cons_ne_nil _ _

/-! ## Texts -/

/-- What the first character contributes to the lowercase of a text. -/
theorem lowerAfter_cons (before : List Char) (c : Char) (rest : List Char) :
    ∃ ds, lowerAfter before (c :: rest) = ds ++ lowerAfter (c :: before) rest ∧ ds ≠ [] ∧
      ∀ d ∈ ds, Settled d ∧ (isBlank c = false → isBlank d = false) := by
  refine ⟨_, rfl, ?_, ?_⟩
  · split
    · exact List.cons_ne_nil _ _
    · exact lowerChar_ne_nil c
  · intro d hd
    split at hd
    · obtain rfl := List.mem_singleton.mp hd
      split
      · exact ⟨by decide +kernel, fun _ => rfl⟩
      · exact ⟨by decide +kernel, fun _ => rfl⟩
    · rename_i hc
      exact settled_lowerChar hc hd

theorem lowerAfter_eq_nil_iff {before cs : List Char} : lowerAfter before cs = [] ↔ cs = [] := by
  constructor
  · intro h
    cases cs with
    | nil => rfl
    | cons c rest =>
      obtain ⟨ds, heq, hne, _⟩ := lowerAfter_cons before c rest
      rw [heq] at h
      exact absurd (List.append_eq_nil_iff.mp h).1 hne
  · rintro rfl
    rfl

theorem lower_eq_empty_iff {s : String} : lower s = "" ↔ s = "" := by
  rw [lower, ← String.toList_eq_nil_iff, String.toList_ofList, lowerAfter_eq_nil_iff,
    String.toList_eq_nil_iff]

theorem settled_lowerAfter (before cs : List Char) : ∀ d ∈ lowerAfter before cs, Settled d := by
  induction cs generalizing before with
  | nil => exact nofun
  | cons c rest ih =>
    obtain ⟨ds, heq, _, hds⟩ := lowerAfter_cons before c rest
    intro d hd
    rw [heq] at hd
    rcases List.mem_append.mp hd with hd | hd
    · exact (hds d hd).1
    · exact ih _ d hd

theorem lowerAfter_of_settled (before : List Char) {cs : List Char} (h : ∀ c ∈ cs, Settled c) :
    lowerAfter before cs = cs := by
  induction cs generalizing before with
  | nil => rfl
  | cons c rest ih =>
    obtain ⟨⟨hc, hlower⟩, hrest⟩ := List.forall_mem_cons.mp h
    rw [lowerAfter, if_neg hc, hlower, ih _ hrest]
    rfl

theorem lower_lower (s : String) : lower (lower s) = lower s := by
  unfold lower
  rw [String.toList_ofList, lowerAfter_of_settled [] (settled_lowerAfter [] s.toList)]

/-- No blank at either end. -/
def Trimmed (cs : List Char) : Prop :=
  ∀ h : cs ≠ [], isBlank (cs.head h) = false ∧ isBlank (cs.getLast h) = false

theorem dropEndWhile_eq (p : Char → Bool) (cs : List Char) :
    dropEndWhile p cs = cs.rdropWhile p := rfl

theorem trimmed_trimWhile (cs : List Char) : Trimmed (trimWhile isBlank cs) := by
  intro h
  unfold trimWhile at h ⊢
  simp only [dropEndWhile_eq] at h ⊢
  have hstart := List.rdropWhile_prefix isBlank (cs.dropWhile isBlank)
  constructor
  · rw [hstart.head h]
    exact List.head_dropWhile_not isBlank _
  · exact Bool.eq_false_iff.mpr (List.rdropWhile_last_not isBlank _ h)

theorem trimWhile_of_trimmed {cs : List Char} (h : Trimmed cs) : trimWhile isBlank cs = cs := by
  cases cs with
  | nil => rfl
  | cons c rest =>
    obtain ⟨hhead, hlast⟩ := h (List.cons_ne_nil c rest)
    have hfront : (c :: rest).dropWhile isBlank = c :: rest := by
      rw [List.dropWhile_cons_of_neg]
      exact Bool.eq_false_iff.mp hhead
    rw [trimWhile, hfront, dropEndWhile_eq, List.rdropWhile_eq_self_iff]
    intro _
    exact Bool.eq_false_iff.mp hlast

theorem strip_strip (s : String) : strip (strip s) = strip s := by
  have h := trimmed_trimWhile s.toList
  unfold strip
  rw [String.toList_ofList, trimWhile_of_trimmed h]

theorem getLast_lowerAfter_not_blank (before : List Char) {cs : List Char} (h : cs ≠ [])
    (hlast : isBlank (cs.getLast h) = false) (h' : lowerAfter before cs ≠ []) :
    isBlank ((lowerAfter before cs).getLast h') = false := by
  induction cs generalizing before with
  | nil => exact absurd rfl h
  | cons c rest ih =>
    obtain ⟨ds, heq, hne, hds⟩ := lowerAfter_cons before c rest
    cases rest with
    | nil =>
      have hsingle : lowerAfter before [c] = ds := heq.trans (List.append_nil ds)
      simp only [hsingle]
      exact (hds _ (List.getLast_mem hne)).2 hlast
    | cons c' rest =>
      have hrest : lowerAfter (c :: before) (c' :: rest) ≠ [] :=
        mt lowerAfter_eq_nil_iff.mp (List.cons_ne_nil c' rest)
      simp only [heq, List.getLast_append_of_ne_nil _ hrest]
      exact ih _ (List.cons_ne_nil c' rest) hlast hrest

theorem trimmed_lowerAfter {cs : List Char} (h : Trimmed cs) : Trimmed (lowerAfter [] cs) := by
  intro h'
  cases cs with
  | nil => exact absurd rfl h'
  | cons c rest =>
    obtain ⟨hhead, hlast⟩ := h (List.cons_ne_nil c rest)
    refine ⟨?_, getLast_lowerAfter_not_blank [] _ hlast h'⟩
    obtain ⟨ds, heq, hne, hds⟩ := lowerAfter_cons [] c rest
    simp only [heq, List.head_append_of_ne_nil hne]
    exact (hds _ (List.head_mem hne)).2 hhead

/-- The lowercase of a stripped text is stripped. -/
theorem strip_lower_strip (s : String) : strip (lower (strip s)) = lower (strip s) := by
  have h := trimmed_lowerAfter (trimmed_trimWhile s.toList)
  unfold strip lower
  rw [String.toList_ofList, String.toList_ofList, trimWhile_of_trimmed h]

/-! ## Blanks -/

theorem strip_eq_self_iff {s : String} : strip s = s ↔ Trimmed s.toList := by
  constructor
  · intro h
    rw [← h, strip, String.toList_ofList]
    exact trimmed_trimWhile s.toList
  · intro h
    rw [strip, trimWhile_of_trimmed h, String.ofList_toList]

def blankCodes : List Nat :=
  [9, 10, 11, 12, 13, 28, 29, 30, 31, 32, 0x85, 0xA0, 0x1680, 0x2000, 0x2001, 0x2002, 0x2003, 0x2004,
   0x2005, 0x2006, 0x2007, 0x2008, 0x2009, 0x200A, 0x2028, 0x2029, 0x202F, 0x205F, 0x3000]

theorem mem_blankCodes {c : Char} (h : isBlank c = true) : c.toNat ∈ blankCodes := by
  simp only [isBlank, Bool.or_eq_true, Bool.and_eq_true, decide_eq_true_eq, beq_iff_eq] at h
  simp only [blankCodes, List.mem_cons, List.not_mem_nil, or_false]
  omega

theorem settled_blankCodes : ∀ n ∈ blankCodes, Settled (Char.ofNat n) := by decide +kernel

/-- A blank has no lowercase but itself. -/
theorem settled_of_isBlank {c : Char} (h : isBlank c = true) : Settled c := by
  have hsettled := settled_blankCodes c.toNat (mem_blankCodes h)
  rwa [Char.ofNat_toNat] at hsettled

theorem lowerAfter_cons_of_settled {c : Char} (h : Settled c) (before rest : List Char) :
    lowerAfter before (c :: rest) = c :: lowerAfter (c :: before) rest := by
  rw [lowerAfter, if_neg h.1, h.2]
  rfl

theorem mem_lowerAfter_of_settled {c : Char} (hc : Settled c) (before : List Char) {cs : List Char}
    (h : c ∈ cs) : c ∈ lowerAfter before cs := by
  induction cs generalizing before with
  | nil => cases h
  | cons d rest ih =>
    rcases List.mem_cons.mp h with rfl | h
    · rw [lowerAfter_cons_of_settled hc]
      exact List.mem_cons_self
    · exact List.mem_append_right _ (ih _ h)

/-- A text whose lowercase begins with no blank begins with none. -/
theorem head_not_blank_of_lower {c : Char} {rest : List Char}
    (h : Trimmed (lowerAfter [] (c :: rest))) : isBlank c = false := by
  rw [Bool.eq_false_iff]
  intro hc
  rw [lowerAfter_cons_of_settled (settled_of_isBlank hc)] at h
  have hhead := (h (List.cons_ne_nil _ _)).1
  rw [List.head_cons, hc] at hhead
  cases hhead

end ModelGateway.Text
