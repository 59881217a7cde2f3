import ModelGateway.Json.Writer
import ModelGateway.Proofs.Binary64.ReadBack
import ModelGateway.Proofs.Json.Number

/-!
# Doubles read back

The layout of a decimal is the spelling of a number with a fraction or an exponent part, and that
number is the decimal up to zeros at its end. The shortest decimal of a double reads back as the
double, so its text does too.
-/
namespace ModelGateway

namespace FloatLayout

open Numeral (isDigit natOfDigits natOfDigits_eq natOfDigits_decimalDigits
  isDigit_of_mem_decimalDigits)
open Json (Spelling Whole whole_zero whole_decimalDigits head?_append_of_ne_nil)

theorem isDigit_of_mem_zeros {c : Char} {n : Nat} (h : c ∈ zeros n) : isDigit c = true := by
  obtain rfl := List.eq_of_mem_replicate h
  rfl

theorem natOfDigits_append (digits more : List Char) :
    natOfDigits (digits ++ more) = 10 ^ more.length * natOfDigits digits + natOfDigits more := by
  rw [natOfDigits_eq, natOfDigits_eq, natOfDigits_eq, Nat.ofDigitChars_append,
    Nat.ofDigitChars_eq_ofDigitChars_zero]

theorem natOfDigits_zeros (n : Nat) : natOfDigits (zeros n) = 0 := by
  rw [natOfDigits_eq, zeros, Nat.ofDigitChars_replicate_zero, Nat.mul_zero]

theorem length_zeros (n : Nat) : (zeros n).length = n := List.length_replicate

theorem natOfDigits_append_zeros (digits : List Char) (n : Nat) :
    natOfDigits (digits ++ zeros n) = natOfDigits digits * 10 ^ n := by
  rw [natOfDigits_append, natOfDigits_zeros, length_zeros, Nat.add_zero, Nat.mul_comm]

theorem natOfDigits_zeros_append (n : Nat) (digits : List Char) :
    natOfDigits (zeros n ++ digits) = natOfDigits digits := by
  rw [natOfDigits_append, natOfDigits_zeros, Nat.mul_zero, Nat.zero_add]

/-- The exponent of the leading digit, as the layout takes it. -/
def leadingExponent (d : Decimal) : Int := if d.coefficient = 0 then 0 else d.lead - 1

theorem leadingExponent_cases (d : Decimal) :
    d.coefficient = 0 ∧ leadingExponent d = 0 ∨
      d.coefficient ≠ 0 ∧ leadingExponent d = digitCount d.coefficient + d.exponent - 1 := by
  unfold leadingExponent
  split
  · rename_i h
    exact .inl ⟨h, rfl⟩
  · rename_i h
    exact .inr ⟨h, rfl⟩

/-- The exponent of a zero does not matter. -/
theorem ofDecimal?_congr {c : Nat} {e e' : Int} (h : c ≠ 0 → e = e') :
    Magnitude.ofDecimal? ⟨c, e⟩ = Magnitude.ofDecimal? ⟨c, e'⟩ := by
  by_cases hc : c = 0
  · rw [Magnitude.ofDecimal?_of_zero hc, Magnitude.ofDecimal?_of_zero hc]
  · rw [h hc]

theorem decimalDigits_head {c : Nat} (hc : c ≠ 0) : (decimalDigits c).head? ≠ some '0' := by
  intro h
  apply hc
  rw [← natOfDigits_decimalDigits c, (whole_decimalDigits c).lone_zero h]
  rfl

theorem isDigit_of_mem_zeros_append {c : Char} {k n : Nat} (h : c ∈ zeros k ++ decimalDigits n) :
    isDigit c = true := by
  rcases List.mem_append.mp h with h | h
  · exact isDigit_of_mem_zeros h
  · exact isDigit_of_mem_decimalDigits h

/-- A spelling of a double with the value of a decimal. -/
structure Spells (s : Spelling) (d : Decimal) : Prop where
  valid : s.Valid
  double : ¬(s.fraction = [] ∧ s.exponent = none)
  value : Magnitude.ofDecimal? s.decimal = Magnitude.ofDecimal? d

theorem whole_append_zeros {c n : Nat} (h : c = 0 → n = 0) :
    Whole (decimalDigits c ++ zeros n) := by
  by_cases hc : c = 0
  · rw [hc, h hc]
    exact whole_zero
  · refine ⟨?_, List.append_ne_nil_of_left_ne_nil (whole_decimalDigits c).nonempty _, ?_⟩
    · intro d hd
      rcases List.mem_append.mp hd with hd | hd
      · exact isDigit_of_mem_decimalDigits hd
      · exact isDigit_of_mem_zeros hd
    · intro hhead
      rw [head?_append_of_ne_nil _ (whole_decimalDigits c).nonempty] at hhead
      exact absurd hhead (decimalDigits_head hc)

/-- A whole number with zeros filled in up to the point, and a zero behind it. -/
theorem spells_whole {d : Decimal} {k : Nat} (hk : leadingExponent d = k)
    (hlen : digitCount d.coefficient ≤ k + 1) :
    Spells ⟨decimalDigits d.coefficient ++ zeros (k + 1 - digitCount d.coefficient), ['0'], none⟩
      d := by
  have hcases := leadingExponent_cases d
  have hpos := Magnitude.digitCount_pos d.coefficient
  obtain ⟨c, e⟩ := d
  dsimp only at hk hlen hcases hpos ⊢
  refine ⟨⟨whole_append_zeros ?_, ?_, ?_⟩, ?_, ?_⟩
  · intro hc
    omega
  · intro x hx
    obtain rfl := List.mem_singleton.mp hx
    rfl
  · exact nofun
  · exact fun h => List.cons_ne_nil _ _ h.1
  · unfold Spelling.decimal Spelling.exponentValue? Numeral.decimal
    dsimp only
    rw [show ['0'] = zeros 1 from rfl, natOfDigits_append_zeros, natOfDigits_append_zeros,
      natOfDigits_decimalDigits, Magnitude.ofDecimal?_mul_pow, Magnitude.ofDecimal?_mul_pow]
    apply ofDecimal?_congr
    intro hc
    rw [length_zeros]
    simp only [Option.map_none, Option.getD_none]
    omega

/-- Digits on both sides of the point. -/
theorem spells_split {d : Decimal} {k : Nat} (hk : leadingExponent d = k)
    (hlen : k + 1 < digitCount d.coefficient) :
    Spells ⟨(decimalDigits d.coefficient).take (k + 1), (decimalDigits d.coefficient).drop (k + 1),
      none⟩ d := by
  have hcases := leadingExponent_cases d
  obtain ⟨c, e⟩ := d
  dsimp only at hk hlen hcases ⊢
  have hne : decimalDigits c ≠ [] := (whole_decimalDigits c).nonempty
  have hc : c ≠ 0 := by
    rintro rfl
    have hone : digitCount 0 = 1 := rfl
    omega
  refine ⟨⟨⟨?_, ?_, ?_⟩, ?_, ?_⟩, ?_, ?_⟩
  · intro x hx
    exact isDigit_of_mem_decimalDigits (List.mem_of_mem_take hx)
  · intro h
    rcases List.take_eq_nil_iff.mp h with h | h
    · omega
    · exact hne h
  · intro h
    rw [List.head?_take, if_neg (Nat.succ_ne_zero k)] at h
    exact absurd h (decimalDigits_head hc)
  · intro x hx
    exact isDigit_of_mem_decimalDigits (List.mem_of_mem_drop hx)
  · exact nofun
  · intro h
    exact absurd (List.drop_eq_nil_iff.mp h.1) (Nat.not_le.mpr hlen)
  · unfold Spelling.decimal Spelling.exponentValue? Numeral.decimal
    dsimp only
    rw [List.take_append_drop, natOfDigits_decimalDigits]
    apply ofDecimal?_congr
    intro _
    rw [List.length_drop]
    simp only [Option.map_none, Option.getD_none]
    unfold digitCount at hlen hcases
    omega

/-- A zero in front of the point, and zeros between the point and the digits. -/
theorem spells_small {d : Decimal} {k : Nat} (hk : leadingExponent d = .negSucc k) :
    Spells ⟨['0'], zeros k ++ decimalDigits d.coefficient, none⟩ d := by
  have hcases := leadingExponent_cases d
  obtain ⟨c, e⟩ := d
  dsimp only at hk hcases ⊢
  refine ⟨⟨whole_zero, ?_, ?_⟩, ?_, ?_⟩
  · exact fun _ => isDigit_of_mem_zeros_append
  · exact nofun
  · exact fun h => List.append_ne_nil_of_right_ne_nil _ (whole_decimalDigits c).nonempty h.1
  · unfold Spelling.decimal Spelling.exponentValue? Numeral.decimal
    dsimp only
    rw [show ['0'] = zeros 1 from rfl, natOfDigits_zeros_append, natOfDigits_zeros_append,
      natOfDigits_decimalDigits]
    apply ofDecimal?_congr
    intro hc
    rw [List.length_append, length_zeros]
    simp only [Option.map_none, Option.getD_none]
    unfold digitCount at hcases
    omega

/-- One digit in front of the point, and an exponent part. -/
theorem spells_exponential {d : Decimal} {first : Char} {digits : List Char} (n : Nat)
    (hd : decimalDigits d.coefficient = first :: digits) (hne : leadingExponent d ≠ 0) :
    Spells ⟨[first], digits, some (decide (leadingExponent d < 0),
      zeros n ++ decimalDigits (leadingExponent d).natAbs)⟩ d := by
  have hcases := leadingExponent_cases d
  obtain ⟨c, e⟩ := d
  generalize hlead : leadingExponent ⟨c, e⟩ = lead at hne hcases ⊢
  dsimp only at hd hcases ⊢
  have hdigits : ∀ x ∈ first :: digits, isDigit x = true := by
    rw [← hd]
    exact fun _ => isDigit_of_mem_decimalDigits
  have hcount : digitCount c = digits.length + 1 := by
    rw [digitCount, hd, List.length_cons]
  refine ⟨⟨⟨?_, List.cons_ne_nil _ _, ?_⟩, ?_, ?_⟩, ?_, ?_⟩
  · intro x hx
    obtain rfl := List.mem_singleton.mp hx
    exact hdigits x List.mem_cons_self
  · intro h
    rw [Option.some.inj h]
  · exact fun x hx => hdigits x (List.mem_cons_of_mem _ hx)
  · intro x hx
    obtain rfl := Option.some.inj hx
    exact ⟨fun _ => isDigit_of_mem_zeros_append,
      List.append_ne_nil_of_right_ne_nil _ (whole_decimalDigits _).nonempty⟩
  · exact fun h => Option.some_ne_none _ h.2
  · unfold Spelling.decimal Spelling.exponentValue? Numeral.decimal
    dsimp only
    rw [List.singleton_append, ← hd, natOfDigits_decimalDigits]
    apply ofDecimal?_congr
    intro hc
    simp only [Option.map_some, Option.getD_some, natOfDigits_zeros_append,
      natOfDigits_decimalDigits, decide_eq_true_eq]
    split <;> omega

/-- The standard layout spells a double with the value of its decimal. -/
theorem exists_spelling (d : Decimal) : ∃ s : Spelling, standard.write d = s.text ∧ Spells s d := by
  unfold write standard
  dsimp only
  rw [show (if d.coefficient = 0 then 0 else d.lead - 1) = leadingExponent d from rfl]
  split
  · split
    · rename_i k hk
      by_cases hlen : digitCount d.coefficient ≤ k + 1
      · refine ⟨_, ?_, spells_whole hk hlen⟩
        rw [List.take_of_length_le hlen, List.drop_of_length_le hlen, if_pos rfl]
        simp [Spelling.text, Spelling.fractionPart, Spelling.exponentPart, digitCount]
      · have hlt : k + 1 < digitCount d.coefficient := Nat.lt_of_not_le hlen
        have hdrop : (decimalDigits d.coefficient).drop (k + 1) ≠ [] :=
          fun h => hlen (List.drop_eq_nil_iff.mp h)
        refine ⟨_, ?_, spells_split hk hlt⟩
        rw [if_neg hdrop, List.length_take_of_le (Nat.le_of_lt hlt), Nat.sub_self]
        simp [Spelling.text, Spelling.fractionPart, Spelling.exponentPart, zeros, hdrop]
    · rename_i k hk
      have hne : zeros k ++ decimalDigits d.coefficient ≠ [] :=
        List.append_ne_nil_of_right_ne_nil _ (whole_decimalDigits _).nonempty
      refine ⟨_, ?_, spells_small hk⟩
      simp [Spelling.text, Spelling.fractionPart, Spelling.exponentPart, hne]
  · rename_i hrange
    have hlead : leadingExponent d ≠ 0 := by
      intro h
      rw [h] at hrange
      exact hrange (by decide)
    have hexponent (first : Char) (digits : List Char)
        (hd : decimalDigits d.coefficient = first :: digits) :=
      spells_exponential (2 - (decimalDigits (leadingExponent d).natAbs).length) hd hlead
    split
    · rename_i hnil
      exact absurd hnil (whole_decimalDigits _).nonempty
    · rename_i first hd
      refine ⟨_, ?_, hexponent first [] hd⟩
      simp [Spelling.text, Spelling.fractionPart, Spelling.exponentPart, exponentPart]
    · rename_i first digits hsingle hd
      have hne : digits ≠ [] := hsingle
      refine ⟨_, ?_, hexponent first digits hd⟩
      simp [Spelling.text, Spelling.fractionPart, Spelling.exponentPart, exponentPart, hne]

end FloatLayout

namespace Json

/-- The text of a finite double is the spelling of a number whose nearest double it is. -/
theorem exists_spelling_finite (negative : Bool) (m : Magnitude) :
    ∃ s : Spelling, writeFloat (.finite negative m) = sign negative ++ s.text ∧ s.Valid ∧
      ¬(s.fraction = [] ∧ s.exponent = none) ∧
        Binary64.ofDecimal negative s.decimal = .finite negative m := by
  obtain ⟨s, htext, hspells⟩ := FloatLayout.exists_spelling m.shortest
  refine ⟨s, ?_, hspells.valid, hspells.double, ?_⟩
  · rw [← htext]
    rfl
  · unfold Binary64.ofDecimal
    rw [hspells.value, m.ofDecimal?_shortest]

end Json
end ModelGateway
