/-!
# Decimal numerals

A decimal is a whole coefficient times a power of ten. This module also fixes how
natural numbers are written in base ten and how a quotient is rounded.
-/
namespace ModelGateway

/-- The number `coefficient * 10 ^ exponent`. -/
structure Decimal where
  coefficient : Nat
  exponent : Int
  deriving DecidableEq, Repr

/-- The value of a run of digits, most significant first, after the digits read so far. -/
def digitsValue (digits : List Nat) : Nat :=
  digits.foldl (fun n d => 10 * n + d) 0

/-- The decimal digits of `n`, most significant first; zero has one digit. -/
def decimalDigits (n : Nat) : List Char := Nat.toDigits 10 n

def digitCount (n : Nat) : Nat := (decimalDigits n).length

/-- The integer nearest to `num / den`; a half goes to the even neighbour. -/
def roundHalfEven (num den : Nat) : Nat :=
  let q := num / den
  let r := num % den
  if 2 * r < den then q
  else if den < 2 * r then q + 1
  else q + q % 2

namespace Decimal

/-- The quotient of naturals that equals the decimal. -/
def ratio (d : Decimal) : Nat × Nat :=
  match d.exponent with
  | .ofNat e => (d.coefficient * Nat.pow 10 e, 1)
  | .negSucc e => (d.coefficient, Nat.pow 10 (e + 1))

/-- The exponent of the least power of ten above the decimal, when it is not zero. -/
def lead (d : Decimal) : Int := digitCount d.coefficient + d.exponent

/-- The same decimal without trailing zeros in its coefficient; `fuel` bounds their number. -/
def dropZeros : Nat → Decimal → Decimal
  | 0, d => d
  | fuel + 1, d =>
    if d.coefficient ≠ 0 ∧ d.coefficient % 10 = 0 then
      dropZeros fuel ⟨d.coefficient / 10, d.exponent + 1⟩
    else d

end Decimal

def intText (n : Int) : String :=
  match n with
  | .ofNat k => String.ofList (decimalDigits k)
  | .negSucc k => String.ofList ('-' :: decimalDigits (k + 1))

end ModelGateway
