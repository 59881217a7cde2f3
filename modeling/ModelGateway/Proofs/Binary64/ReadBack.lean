import ModelGateway.Binary64.Shortest
import Mathlib.Algebra.Ring.Nat

/-!
# The shortest decimal reads back

Rounding looks at a quotient only through its value, so a decimal may gain or lose zeros at its end.
A size is the nearest to itself, which makes all its digits read back; the shortest decimal is
either checked to read back or has all the digits.
-/
namespace ModelGateway

/-! ## Rounding looks at the value of a quotient -/

theorem roundHalfEven_mul (num den : Nat) {k : Nat} (hk : 0 < k) :
    roundHalfEven (num * k) (den * k) = roundHalfEven num den := by
  have hleft : 2 * (num % den * k) < den * k ↔ 2 * (num % den) < den := by
    rw [← Nat.mul_assoc]
    exact Nat.mul_lt_mul_right hk
  have hright : den * k < 2 * (num % den * k) ↔ den < 2 * (num % den) := by
    rw [← Nat.mul_assoc]
    exact Nat.mul_lt_mul_right hk
  unfold roundHalfEven
  dsimp only
  rw [Nat.mul_div_mul_right _ _ hk, Nat.mul_mod_mul_right]
  simp only [hleft, hright]

theorem roundHalfEven_exact (q : Nat) {den : Nat} (h : 0 < den) :
    roundHalfEven (q * den) den = q := by
  unfold roundHalfEven
  dsimp only
  rw [Nat.mul_div_cancel _ h, Nat.mul_mod_left, if_pos (by omega)]

namespace Magnitude

theorem ofRatio?_mul (num den : Nat) {k : Nat} (hk : 0 < k) :
    ofRatio? (num * k) (den * k) = ofRatio? num den := by
  have hunits : num * k * Nat.pow 2 1074 = num * Nat.pow 2 1074 * k := Nat.mul_right_comm _ _ _
  have hround : ∀ scale, den * k * Nat.pow 2 scale = den * Nat.pow 2 scale * k :=
    fun _ => Nat.mul_right_comm _ _ _
  unfold ofRatio?
  dsimp only
  rw [hunits, hround, Nat.mul_div_mul_right _ _ hk, roundHalfEven_mul _ _ hk]

/-! ## Zeros at the end of a coefficient -/

theorem digitCount_mul_ten {c : Nat} (h : 0 < c) : digitCount (10 * c) = digitCount c + 1 := by
  unfold digitCount decimalDigits
  rw [← Nat.add_zero (10 * c), ← Nat.toDigits_append_toDigits (by decide) h (by decide),
    List.length_append]
  rfl

theorem ofDecimal?_of_zero {d : Decimal} (h : d.coefficient = 0) : ofDecimal? d = some zero :=
  if_pos (.inl h)

theorem ofDecimal?_shift (c : Nat) (e : Int) : ofDecimal? ⟨10 * c, e⟩ = ofDecimal? ⟨c, e + 1⟩ := by
  rcases Nat.eq_zero_or_pos c with rfl | hc
  · rw [ofDecimal?_of_zero rfl, ofDecimal?_of_zero rfl]
  have hlead : Decimal.lead ⟨10 * c, e⟩ = Decimal.lead ⟨c, e + 1⟩ := by
    change (digitCount (10 * c) : Int) + e = (digitCount c : Int) + (e + 1)
    rw [digitCount_mul_ten hc]
    omega
  have hratio : ofRatio? (Decimal.ratio ⟨10 * c, e⟩).1 (Decimal.ratio ⟨10 * c, e⟩).2 =
      ofRatio? (Decimal.ratio ⟨c, e + 1⟩).1 (Decimal.ratio ⟨c, e + 1⟩).2 := by
    match e with
    | .ofNat k =>
      change ofRatio? (10 * c * 10 ^ k) 1 = ofRatio? (c * 10 ^ (k + 1)) 1
      rw [Nat.pow_succ', ← Nat.mul_assoc, Nat.mul_comm c 10]
    | .negSucc 0 =>
      change ofRatio? (10 * c) (1 * 10) = ofRatio? (c * 1) 1
      rw [Nat.mul_comm 10 c, ofRatio?_mul _ _ (by decide), Nat.mul_one]
    | .negSucc (k + 1) =>
      change ofRatio? (10 * c) (10 ^ (k + 1) * 10) = ofRatio? c (10 ^ (k + 1))
      rw [Nat.mul_comm 10 c, ofRatio?_mul _ _ (by decide)]
  have hzero : 10 * c = 0 ↔ c = 0 := by omega
  unfold ofDecimal?
  rw [hlead, hratio]
  simp only [hzero]

/-- A power of ten in the coefficient counts like one in the exponent. -/
theorem ofDecimal?_mul_pow (c k : Nat) (e : Int) :
    ofDecimal? ⟨c * 10 ^ k, e⟩ = ofDecimal? ⟨c, e + k⟩ := by
  induction k generalizing e with
  | zero => simp
  | succ k ih =>
    have hc : c * 10 ^ (k + 1) = 10 * (c * 10 ^ k) := by
      rw [Nat.pow_succ']
      exact Nat.mul_left_comm _ _ _
    have he : e + 1 + (k : Int) = e + (k + 1 : Nat) := by omega
    rw [hc, ofDecimal?_shift, ih, he]

theorem ofDecimal?_dropZeros (fuel : Nat) (d : Decimal) :
    ofDecimal? (d.dropZeros fuel) = ofDecimal? d := by
  induction fuel generalizing d with
  | zero => rfl
  | succ fuel ih =>
    rw [Decimal.dropZeros]
    split
    · rename_i h
      have hc : 10 * (d.coefficient / 10) = d.coefficient := by omega
      rw [ih, ← ofDecimal?_shift, hc]
    · rfl

/-! ## A size is the nearest to itself -/

theorem log2_mul_two_pow {n : Nat} (h : 0 < n) (k : Nat) : (n * 2 ^ k).log2 = n.log2 + k := by
  have hn : n ≠ 0 := Nat.ne_of_gt h
  have hpow : 0 < 2 ^ k := Nat.two_pow_pos k
  rw [Nat.log2_eq_iff (Nat.mul_ne_zero hn (Nat.ne_of_gt hpow))]
  constructor
  · rw [Nat.pow_add]
    exact Nat.mul_le_mul_right _ (Nat.log2_self_le hn)
  · rw [Nat.add_right_comm, Nat.pow_add]
    exact Nat.mul_lt_mul_of_pos_right Nat.lt_log2_self hpow

/-- The scale that rounding chooses for a size is that of the size. -/
theorem scale_eq {m : Magnitude} (h : 0 < m.significand) :
    (m.significand * 2 ^ m.scale).log2 - 52 = m.scale := by
  have hn : m.significand ≠ 0 := Nat.ne_of_gt h
  have hlt : m.significand.log2 < 53 := (Nat.log2_lt hn).mpr m.significand_lt
  rw [log2_mul_two_pow h]
  rcases m.normal with hscale | hnormal
  · omega
  · have hle : 52 ≤ m.significand.log2 := (Nat.le_log2 hn).mpr hnormal
    omega

theorem fit?_self (m : Magnitude) : fit? m.significand m.scale = some m :=
  dif_pos ⟨m.significand_lt, m.scale_le, m.normal⟩

theorem ratio_eq (m : Magnitude) : m.ratio = (m.significand * 2 ^ m.scale, 2 ^ 1074) := by
  rw [ratio, Nat.pow_eq, Nat.pow_eq]

theorem ofRatio?_ratio {m : Magnitude} (h : 0 < m.significand) :
    ofRatio? m.ratio.1 m.ratio.2 = some m := by
  unfold ofRatio?
  rw [ratio_eq, Nat.pow_eq]
  dsimp only
  generalize hden : 2 ^ 1074 = den
  have hpos : 0 < den := hden ▸ Nat.two_pow_pos _
  rw [Nat.mul_div_cancel _ hpos, scale_eq h, Nat.pow_eq, Nat.mul_assoc, Nat.mul_comm den,
    roundHalfEven_exact _ (Nat.mul_pos (Nat.two_pow_pos _) hpos), fit?_self]

/-- So are the quotients that equal it. -/
theorem ofRatio?_of_eq {m : Magnitude} (h : 0 < m.significand) {num den k l : Nat} (hk : 0 < k)
    (hl : 0 < l) (hnum : num * k = m.ratio.1 * l) (hden : den * k = m.ratio.2 * l) :
    ofRatio? num den = some m := by
  rw [← ofRatio?_mul num den hk, hnum, hden, ofRatio?_mul _ _ hl, ofRatio?_ratio h]

/-! ## All digits of a size -/

theorem eq_zero_of_significand {m : Magnitude} (h : m.significand = 0) : m = zero := by
  obtain ⟨significand, scale, _, _, hnormal⟩ := m
  obtain rfl : significand = 0 := h
  obtain rfl : scale = 0 := hnormal.resolve_right (by decide)
  rfl

theorem ofDecimal?_of_lead {d : Decimal} (hc : d.coefficient ≠ 0) (hlow : -330 ≤ d.lead)
    (hhigh : d.lead ≤ 310) : ofDecimal? d = ofRatio? d.ratio.1 d.ratio.2 := by
  unfold ofDecimal?
  rw [if_neg (by omega), if_neg (by omega)]

theorem digitCount_le_iff {n k : Nat} (hk : 0 < k) : digitCount n ≤ k ↔ n < 10 ^ k :=
  Nat.length_toDigits_le_iff (by decide) hk

theorem digitCount_pos (n : Nat) : 0 < digitCount n := Nat.length_toDigits_pos

theorem exactDecimal_large {m : Magnitude} (hm : 0 < m.significand) (h : 1074 ≤ m.scale) :
    ofDecimal? m.exactDecimal = some m := by
  have hexact : m.exactDecimal = ⟨m.significand * 2 ^ (m.scale - 1074), 0⟩ := if_pos h
  have hpow : 0 < 2 ^ (m.scale - 1074) := Nat.two_pow_pos _
  have hcount : digitCount (m.significand * 2 ^ (m.scale - 1074)) ≤ 310 := by
    refine (digitCount_le_iff (by decide)).mpr ?_
    calc m.significand * 2 ^ (m.scale - 1074)
        < 2 ^ 53 * 2 ^ (m.scale - 1074) := Nat.mul_lt_mul_of_pos_right m.significand_lt hpow
      _ ≤ 2 ^ 53 * 2 ^ 971 := Nat.mul_le_mul_left _
          (Nat.pow_le_pow_right (by decide) (by have := m.scale_le; omega))
      _ ≤ 10 ^ 310 := by decide +kernel
  have hsplit : 2 ^ (m.scale - 1074) * 2 ^ 1074 = 2 ^ m.scale := by
    rw [← Nat.pow_add, Nat.sub_add_cancel h]
  have hratio : ofRatio? (m.significand * 2 ^ (m.scale - 1074)) 1 = some m := by
    refine ofRatio?_of_eq hm (Nat.two_pow_pos 1074) Nat.one_pos ?_ ?_
    · rw [Nat.mul_assoc, hsplit, Nat.mul_one, ratio_eq]
    · rw [Nat.one_mul, Nat.mul_one, ratio_eq]
  rw [hexact, ofDecimal?_of_lead]
  · change ofRatio? (m.significand * 2 ^ (m.scale - 1074) * 1) 1 = some m
    rw [Nat.mul_one, hratio]
  · exact Nat.ne_of_gt (Nat.mul_pos hm hpow)
  · change -330 ≤ (digitCount (m.significand * 2 ^ (m.scale - 1074)) : Int) + 0
    omega
  · change (digitCount (m.significand * 2 ^ (m.scale - 1074)) : Int) + 0 ≤ 310
    omega

/-- Powers of five have enough digits to keep the decimals of sizes from being too small. -/
theorem le_digitCount_mul_five_pow {c t : Nat} (hc : 0 < c) (ht : t ≤ 1074) :
    t ≤ digitCount (c * 5 ^ t) + 330 := by
  by_contra hlt
  have hpos := digitCount_pos (c * 5 ^ t)
  obtain ⟨k, hk⟩ : ∃ k, t = k + 331 := ⟨t - 331, by omega⟩
  have hcount := (digitCount_le_iff (by omega)).mp (show digitCount (c * 5 ^ t) ≤ k by omega)
  have hsmall : 2 ^ k ≤ 5 ^ 331 := calc
    2 ^ k ≤ 2 ^ 743 := Nat.pow_le_pow_right (by decide) (by omega)
    _ ≤ 5 ^ 331 := by decide +kernel
  have hten : 10 ^ k ≤ 5 ^ t := by
    rw [hk, Nat.pow_add, Nat.mul_comm, show (10 : Nat) = 2 * 5 from rfl, Nat.mul_pow]
    exact Nat.mul_le_mul_right _ hsmall
  exact absurd (Nat.lt_of_lt_of_le hcount hten) (Nat.not_lt.mpr (Nat.le_mul_of_pos_left _ hc))

theorem digitCount_mul_five_pow_le {c : Nat} (hc : c < 2 ^ 53) (t : Nat) :
    digitCount (c * 5 ^ t) ≤ t + 310 := by
  refine (digitCount_le_iff (by omega)).mpr ?_
  calc c * 5 ^ t
      < 2 ^ 53 * 5 ^ t := Nat.mul_lt_mul_of_pos_right hc (Nat.pow_pos (by decide))
    _ ≤ 10 ^ 310 * 10 ^ t := Nat.mul_le_mul (by decide +kernel) (Nat.pow_le_pow_left (by decide) _)
    _ = 10 ^ (t + 310) := by rw [Nat.pow_add 10 t 310, Nat.mul_comm]

theorem exactDecimal_small {m : Magnitude} (hm : 0 < m.significand) (h : m.scale < 1074) :
    ofDecimal? m.exactDecimal = some m := by
  obtain ⟨t, ht⟩ : ∃ t, m.scale + (t + 1) = 1074 := ⟨1073 - m.scale, by omega⟩
  have hexact : m.exactDecimal = ⟨m.significand * 5 ^ (t + 1), .negSucc t⟩ := by
    unfold exactDecimal
    rw [if_neg (by omega), show 1074 - m.scale = t + 1 by omega]
    congr 1
    omega
  have hlow := le_digitCount_mul_five_pow hm (show t + 1 ≤ 1074 by omega)
  have hhigh := digitCount_mul_five_pow_le m.significand_lt (t + 1)
  have hratio : ofRatio? (m.significand * 5 ^ (t + 1)) (10 ^ (t + 1)) = some m := by
    have hsplit : 2 ^ (t + 1) * 2 ^ m.scale = 2 ^ 1074 := by
      rw [← Nat.pow_add, Nat.add_comm, ht]
    have hfive : 0 < 5 ^ (t + 1) := Nat.pow_pos (by decide)
    refine ofRatio?_of_eq hm (Nat.two_pow_pos m.scale) hfive ?_ ?_
    · rw [ratio_eq, Nat.mul_right_comm]
    · rw [show (10 : Nat) = 2 * 5 from rfl, Nat.mul_pow, Nat.mul_right_comm, hsplit, ratio_eq]
  rw [hexact, ofDecimal?_of_lead]
  · exact hratio
  · exact Nat.ne_of_gt (Nat.mul_pos hm (Nat.pow_pos (by decide)))
  · change -330 ≤ (digitCount (m.significand * 5 ^ (t + 1)) : Int) + .negSucc t
    omega
  · change (digitCount (m.significand * 5 ^ (t + 1)) : Int) + .negSucc t ≤ 310
    omega

/-- All the digits of a size read back. -/
theorem ofDecimal?_exactDecimal (m : Magnitude) : ofDecimal? m.exactDecimal = some m := by
  rcases Nat.eq_zero_or_pos m.significand with hm | hm
  · have hc : m.exactDecimal.coefficient = 0 := by
      unfold exactDecimal
      split
      · dsimp only
        rw [hm, Nat.zero_mul]
      · dsimp only
        rw [hm, Nat.zero_mul]
    rw [ofDecimal?_of_zero hc, eq_zero_of_significand hm]
  · rcases Nat.lt_or_ge m.scale 1074 with h | h
    · exact exactDecimal_small hm h
    · exact exactDecimal_large hm h

/-- The shortest decimal reads back as the size. -/
theorem ofDecimal?_shortest (m : Magnitude) : ofDecimal? m.shortest = some m := by
  unfold shortest
  dsimp only
  rw [ofDecimal?_dropZeros]
  cases hfound : ((List.range 17).map fun n : Nat =>
      leadOfRatio m.ratio.1 m.ratio.2 - ((n + 1 : Nat) : Int)).findSome? fun unit =>
        (m.neighbours unit).find? fun d => ofDecimal? d = some m with
  | none => exact m.ofDecimal?_exactDecimal
  | some d =>
    obtain ⟨unit, _, hunit⟩ := List.exists_of_findSome?_eq_some hfound
    have hread := List.find?_some hunit
    exact of_decide_eq_true hread

end Magnitude
end ModelGateway
