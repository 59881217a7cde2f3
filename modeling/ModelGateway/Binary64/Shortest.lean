import ModelGateway.Binary64

/-!
# The shortest decimal of a double

Among the decimals that read back as a given double, the shortest are those with the
fewest digits; of these the nearest to the double is taken, and of two equally near the
one with an even last digit. Reading back is checked, not assumed.
-/
namespace ModelGateway

namespace Magnitude

/-- The exponent of the least power of ten above `num / den`, for positive naturals. -/
def leadOfRatio (num den : Nat) : Int :=
  let k : Int := (digitCount num : Int) - digitCount den
  let below : Bool := match k with
    | .ofNat e => num < den * Nat.pow 10 e
    | .negSucc e => num * Nat.pow 10 (e + 1) < den
  if below then k else k + 1

/-- The two neighbours of the size on the grid of multiples of `10 ^ unit`, the nearer one first. -/
def neighbours (m : Magnitude) (unit : Int) : List Decimal :=
  let (num, den) := m.ratio
  let (num, den) := match unit with
    | .ofNat e => (num, den * Nat.pow 10 e)
    | .negSucc e => (num * Nat.pow 10 (e + 1), den)
  let q := num / den
  let r := num % den
  if 2 * r < den ∨ 2 * r = den ∧ q % 2 = 0 then [⟨q, unit⟩, ⟨q + 1, unit⟩]
  else [⟨q + 1, unit⟩, ⟨q, unit⟩]

/-- The shortest decimal that reads back as the size, nearest to it among those. -/
def shortest (m : Magnitude) : Decimal :=
  let lead := leadOfRatio m.ratio.1 m.ratio.2
  let grids := (List.range 17).map fun n : Nat => lead - (n + 1 : Nat)
  let found := grids.findSome? fun unit =>
    (m.neighbours unit).find? fun d => Magnitude.ofDecimal? d = some m
  (found.getD m.exactDecimal).dropZeros 18

end Magnitude

structure FloatLayout where
  /-- The least exponent of the leading digit that is written without an exponent part. -/
  leastPositional : Int
  /-- The first exponent of the leading digit that is written with an exponent part. -/
  firstExponential : Int
  /-- The least number of digits of an exponent part. -/
  exponentWidth : Nat

/-- Positional from `0.0001` up to below `10 ^ 16`, with at least one digit on either side of the
point; otherwise an exponent of at least two digits with its sign. -/
def FloatLayout.standard : FloatLayout := ⟨-4, 16, 2⟩

namespace FloatLayout

def zeros (n : Nat) : List Char := List.replicate n '0'

/-- An exponent part: its sign and its digits, padded with zeros. -/
def exponentPart (l : FloatLayout) (e : Int) : List Char :=
  let digits := decimalDigits e.natAbs
  'e' :: (if e < 0 then '-' else '+') :: (zeros (l.exponentWidth - digits.length) ++ digits)

/-- The text of a decimal without trailing zeros in its coefficient. -/
def write (l : FloatLayout) (d : Decimal) : List Char :=
  let digits := decimalDigits d.coefficient
  let e : Int := if d.coefficient = 0 then 0 else d.lead - 1
  if l.leastPositional ≤ e ∧ e < l.firstExponential then
    match e with
    | .ofNat k =>
      let whole := digits.take (k + 1)
      let fraction := digits.drop (k + 1)
      whole ++ zeros (k + 1 - whole.length) ++ '.' :: (if fraction = [] then ['0'] else fraction)
    | .negSucc k => '0' :: '.' :: (zeros k ++ digits)
  else
    match digits with
    | [] => []
    | [first] => first :: l.exponentPart e
    | first :: rest => first :: '.' :: (rest ++ l.exponentPart e)

end FloatLayout

namespace Binary64

/-- The text of a double with the given spellings of the values that have no digits. -/
def textWith (nanText infinityText : List Char) : Binary64 → List Char
  | .nan => nanText
  | .infinite negative => (if negative then ['-'] else []) ++ infinityText
  | .finite negative m =>
    (if negative then ['-'] else []) ++ FloatLayout.standard.write m.shortest

end Binary64
end ModelGateway
