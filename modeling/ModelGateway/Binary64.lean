import ModelGateway.Decimal

/-!
# IEEE double-precision numbers

A value is a NaN, a signed infinity, or a finite number held as a sign and an
integer multiple of a power of two. Conversions from integers and decimals use
exact natural-number arithmetic and round once, to the nearest value, ties to even.
-/
namespace ModelGateway

/-- The size `significand * 2 ^ scale`, counted in the least positive double `2 ^ (-1074)`. -/
structure Magnitude where
  significand : Nat
  scale : Nat
  /-- A significand has at most 53 bits. -/
  significand_lt : significand < 0x20000000000000
  scale_le : scale ≤ 2045
  /-- All 53 bits are in use above the least scale, so each size is written in one way. -/
  normal : scale = 0 ∨ 0x10000000000000 ≤ significand
  deriving DecidableEq, Repr

namespace Magnitude

def zero : Magnitude := ⟨0, 0, by decide, by decide, .inl rfl⟩

/-- The size `q * 2 ^ scale`, where a significand that rounded up to `2 ^ 53` moves one scale up;
`none` beyond the largest finite double. -/
def fit? (q scale : Nat) : Option Magnitude :=
  if h : q < 0x20000000000000 ∧ scale ≤ 2045 ∧ (scale = 0 ∨ 0x10000000000000 ≤ q) then
    some ⟨q, scale, h.1, h.2.1, h.2.2⟩
  else if h : scale + 1 ≤ 2045 ∧ q = 0x20000000000000 then
    some ⟨0x10000000000000, scale + 1, by decide, h.1, .inr (Nat.le_refl _)⟩
  else none

/-- The size nearest to `num / den`; `none` when that rounds beyond the largest finite double. -/
def ofRatio? (num den : Nat) : Option Magnitude :=
  let units := num * Nat.pow 2 1074
  let scale := (units / den).log2 - 52
  fit? (roundHalfEven units (den * Nat.pow 2 scale)) scale

/-- The size nearest to a decimal. Decimals of 10 ^ 310 and more are too large, and those below
10 ^ (-330) round to zero, whatever their digits. -/
def ofDecimal? (d : Decimal) : Option Magnitude :=
  if d.coefficient = 0 ∨ d.lead < -330 then some zero
  else if 310 < d.lead then none
  else ofRatio? d.ratio.1 d.ratio.2

/-- The quotient of naturals that equals the size. -/
def ratio (m : Magnitude) : Nat × Nat :=
  (m.significand * Nat.pow 2 m.scale, Nat.pow 2 1074)

def exactDecimal (m : Magnitude) : Decimal :=
  if 1074 ≤ m.scale then ⟨m.significand * Nat.pow 2 (m.scale - 1074), 0⟩
  else ⟨m.significand * Nat.pow 5 (1074 - m.scale), (m.scale : Int) - 1074⟩

end Magnitude

inductive Binary64 where
  | nan
  | infinite (negative : Bool)
  | finite (negative : Bool) (size : Magnitude)
  deriving DecidableEq, Repr

namespace Binary64

def zero : Binary64 := .finite false .zero

/-- The nearest double to a decimal with a sign; too large a decimal gives an infinity. -/
def ofDecimal (negative : Bool) (d : Decimal) : Binary64 :=
  match Magnitude.ofDecimal? d with
  | some m => .finite negative m
  | none => .infinite negative

/-- The nearest double to an integer; `none` beyond the largest finite double. -/
def ofInt? (n : Int) : Option Binary64 :=
  (Magnitude.ofDecimal? ⟨n.natAbs, 0⟩).map (.finite (decide (n < 0)))

def isZero : Binary64 → Bool
  | .finite _ m => m.significand == 0
  | _ => false

instance : OfScientific Binary64 where
  ofScientific coefficient negativeExponent exponent :=
    ofDecimal false ⟨coefficient, if negativeExponent then -(exponent : Int) else exponent⟩

end Binary64
end ModelGateway
