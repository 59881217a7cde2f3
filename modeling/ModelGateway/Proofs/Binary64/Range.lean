import ModelGateway.Proofs.Binary64.ReadBack

/-!
# Which integers have a double

The scale that rounding chooses for an integer grows with its binary logarithm, and the rounded
significand has 53 bits or is the next power of two. So an integer has a nearest double if it is
below the middle between the largest double and the power of two above that, and otherwise none.
-/
namespace ModelGateway

/-- The least size of an integer without a double, `2 ^ 1024 - 2 ^ 970`. -/
def Binary64.intLimit : Nat := 0x3FFFFFFFFFFFFF * Nat.pow 2 970

theorem le_roundHalfEven (num den : Nat) : num / den ≤ roundHalfEven num den := by
  unfold roundHalfEven
  dsimp only
  split
  · omega
  · split <;> omega

theorem roundHalfEven_le_succ (num den : Nat) : roundHalfEven num den ≤ num / den + 1 := by
  unfold roundHalfEven
  dsimp only
  split
  · omega
  · split <;> omega

/-- Rounding reaches an even integer from the middle between it and the integer below. -/
theorem roundHalfEven_lt_iff {q half : Nat} (hhalf : 0 < half) (hq : q % 2 = 0) (hpos : 0 < q)
    (num : Nat) : roundHalfEven num (2 * half) < q ↔ num + half < q * (2 * half) := by
  have hdiv := Nat.div_add_mod num (2 * half)
  have hmod := Nat.mod_lt num (show 0 < 2 * half by omega)
  have hlow := le_roundHalfEven num (2 * half)
  have hhigh := roundHalfEven_le_succ num (2 * half)
  rcases Nat.lt_trichotomy (num / (2 * half) + 1) q with hbelow | rfl | habove
  · -- The quotient is too small for the rounding to reach `q`.
    have hle : (num / (2 * half) + 1 + 1) * (2 * half) ≤ q * (2 * half) :=
      Nat.mul_le_mul_right _ hbelow
    rw [Nat.add_mul, Nat.add_mul, Nat.mul_comm (num / (2 * half))] at hle
    omega
  · rw [Nat.add_mul, Nat.mul_comm (num / (2 * half))]
    unfold roundHalfEven
    dsimp only
    split
    · omega
    · split <;> omega
  · have hle : q * (2 * half) ≤ num / (2 * half) * (2 * half) :=
      Nat.mul_le_mul_right _ (Nat.le_of_lt_succ habove)
    rw [Nat.mul_comm (num / (2 * half))] at hle
    omega

namespace Magnitude

theorem fit?_eq_none_iff {q scale : Nat} (hlow : 2 ^ 52 ≤ q) (hhigh : q ≤ 2 ^ 53) :
    fit? q scale = none ↔ 2045 < scale ∨ scale = 2045 ∧ q = 2 ^ 53 := by
  unfold fit?
  split
  · simp only [reduceCtorEq, false_iff]
    omega
  · split
    · simp only [reduceCtorEq, false_iff]
      omega
    · simp only [true_iff]
      omega

/-- The quotient that is rounded for an integer, and its scale. -/
theorem ofRatio?_one {k e : Nat} (hk : 0 < k) (he : e = 970) :
    ofRatio? k 1 =
      fit? (roundHalfEven (k * 2 ^ (e + 104)) (2 ^ (k.log2 + (e + 52)))) (k.log2 + (e + 52)) := by
  unfold ofRatio?
  dsimp only
  rw [show 1074 = e + 104 by omega, Nat.div_one, Nat.one_mul, Nat.pow_eq, log2_mul_two_pow hk,
    show k.log2 + (e + 104) - 52 = k.log2 + (e + 52) by omega, Nat.pow_eq]

theorem quotient_range {k : Nat} (hk : 0 < k) (e : Nat) :
    2 ^ 52 ≤ roundHalfEven (k * 2 ^ (e + 104)) (2 ^ (k.log2 + (e + 52))) ∧
      roundHalfEven (k * 2 ^ (e + 104)) (2 ^ (k.log2 + (e + 52))) ≤ 2 ^ 53 := by
  have hk' : k ≠ 0 := Nat.ne_of_gt hk
  have hden : 0 < 2 ^ (k.log2 + (e + 52)) := Nat.two_pow_pos _
  have hlow : 2 ^ 52 ≤ k * 2 ^ (e + 104) / 2 ^ (k.log2 + (e + 52)) := by
    rw [Nat.le_div_iff_mul_le hden, ← Nat.pow_add,
      show 52 + (k.log2 + (e + 52)) = k.log2 + (e + 104) by omega, Nat.pow_add 2 k.log2]
    exact Nat.mul_le_mul_right _ (Nat.log2_self_le hk')
  have hhigh : k * 2 ^ (e + 104) / 2 ^ (k.log2 + (e + 52)) < 2 ^ 53 := by
    rw [Nat.div_lt_iff_lt_mul hden, ← Nat.pow_add,
      show 53 + (k.log2 + (e + 52)) = k.log2 + 1 + (e + 104) by omega, Nat.pow_add 2 (k.log2 + 1)]
    exact Nat.mul_lt_mul_of_pos_right Nat.lt_log2_self (Nat.two_pow_pos _)
  exact ⟨Nat.le_trans hlow (le_roundHalfEven _ _),
    Nat.le_trans (roundHalfEven_le_succ _ _) hhigh⟩

/-- Only integers whose highest bit is bit 1023 need rounding to tell. The exponent 970 has a name
here because powers of that size are not to be computed. -/
theorem ofRatio?_one_eq_none_iff {k e : Nat} (hk : 0 < k) (he : e = 970) :
    ofRatio? k 1 = none ↔ (2 ^ 54 - 1) * 2 ^ e ≤ k := by
  obtain ⟨hlow, hhigh⟩ := quotient_range hk e
  have hk' : k ≠ 0 := Nat.ne_of_gt hk
  have hhalf : 0 < 2 ^ e := Nat.two_pow_pos e
  have hpow : ∀ n, 2 ^ (e + n) = 2 ^ n * 2 ^ e := by
    intro n
    rw [Nat.pow_add, Nat.mul_comm]
  rw [ofRatio?_one hk he, fit?_eq_none_iff hlow hhigh]
  rcases Nat.lt_trichotomy k.log2 (e + 53) with hsmall | hlog | hlarge
  · have hlt : k < 2 ^ (e + 53) := (Nat.log2_lt hk').mp hsmall
    rw [hpow] at hlt
    generalize 2 ^ e = half at *
    omega
  · have hlt : k < 2 ^ (e + 54) := (Nat.log2_lt hk').mp (by omega)
    have hround : roundHalfEven (k * 2 ^ (e + 104)) (2 ^ (k.log2 + (e + 52))) =
        roundHalfEven k (2 * 2 ^ e) := by
      rw [hlog, show e + 53 + (e + 52) = e + 1 + (e + 104) by omega, Nat.pow_add 2 (e + 1), hpow 1,
        Nat.pow_one]
      exact roundHalfEven_mul k _ (Nat.two_pow_pos _)
    have hiff := roundHalfEven_lt_iff (q := 2 ^ 53) hhalf (by decide) (by decide) k
    rw [hround] at hhigh ⊢
    rw [hpow] at hlt
    generalize 2 ^ e = half at *
    omega
  · have hle : 2 ^ (e + 54) ≤ k := (Nat.le_log2 hk').mp hlarge
    rw [hpow] at hle
    generalize 2 ^ e = half at *
    omega

end Magnitude

theorem Binary64.intLimit_eq {e : Nat} (he : e = 970) : intLimit = (2 ^ 54 - 1) * 2 ^ e := by
  rw [intLimit, ← he, Nat.pow_eq]
  rfl

theorem Binary64.intLimit_le_ten_pow : intLimit ≤ 10 ^ 310 := by decide +kernel

/-- An integer has no double if and only if its size reaches the limit. -/
theorem Binary64.ofInt?_eq_none_iff (n : Int) : ofInt? n = none ↔ intLimit ≤ n.natAbs := by
  obtain ⟨e, he⟩ : ∃ e, e = 970 := ⟨970, rfl⟩
  rw [ofInt?, Option.map_eq_none_iff]
  generalize n.natAbs = k
  rcases Nat.eq_zero_or_pos k with rfl | hk
  · have hpos : 0 < intLimit := intLimit_eq he ▸ Nat.mul_pos (by decide) (Nat.two_pow_pos e)
    rw [Magnitude.ofDecimal?_of_zero rfl]
    simp only [reduceCtorEq, false_iff]
    omega
  · by_cases hlead : digitCount k ≤ 310
    · have hratio : Magnitude.ofDecimal? ⟨k, 0⟩ = Magnitude.ofRatio? (k * 1) 1 := by
        refine Magnitude.ofDecimal?_of_lead (Nat.ne_of_gt hk) ?_ ?_
        · change -330 ≤ (digitCount k : Int) + 0
          omega
        · change (digitCount k : Int) + 0 ≤ 310
          omega
      rw [hratio, Nat.mul_one, Magnitude.ofRatio?_one_eq_none_iff hk he, intLimit_eq he]
    · have hnone : Magnitude.ofDecimal? ⟨k, 0⟩ = none := by
        have hhigh : 310 < Decimal.lead ⟨k, 0⟩ := by
          change 310 < (digitCount k : Int) + 0
          omega
        unfold Magnitude.ofDecimal?
        rw [if_neg (not_or.mpr ⟨Nat.ne_of_gt hk, by omega⟩), if_pos hhigh]
      have hle : 10 ^ 310 ≤ k :=
        Nat.le_of_not_lt fun hlt => hlead ((Magnitude.digitCount_le_iff (by decide)).mpr hlt)
      rw [hnone]
      simp only [true_iff]
      exact Nat.le_trans intLimit_le_ten_pow hle

end ModelGateway
