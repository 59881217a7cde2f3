import ModelGateway.Binary64
import ModelGateway.Text.Blank
import ModelGateway.Text.DecimalDigit

/-!
# Reading numbers from text

A numeral may have blanks around it, a sign, digits of any script, and single underscores between
digits. A number with a point or an exponent is read as the nearest double, and a text may also
name an infinity or the NaN.
-/
namespace ModelGateway.Numeral

def isDigit (c : Char) : Bool := '0' ≤ c && c ≤ '9'

def digitValue (c : Char) : Nat := c.toNat - '0'.toNat

/-- A character as it counts in a numeral: digits of any script become ASCII digits, blanks beyond
ASCII become spaces, and other characters beyond ASCII stand for no part of a number. -/
def plainChar (c : Char) : Char :=
  if c.toNat < 127 then c
  else if Text.isBlank c then ' '
  else match Text.decimalDigit? c with
    | some d => Char.ofNat ('0'.toNat + d)
    | none => '?'

/-- The blanks that may surround a numeral. -/
def isSpace (c : Char) : Bool := c == ' ' || (9 ≤ c.toNat && c.toNat ≤ 13)

/-- Removes underscores, each of which has to stand between two digits. -/
def dropUnderscores? : List Char → Option (List Char)
  | [] => some []
  | '_' :: _ => none
  | [c] => some [c]
  | c :: '_' :: d :: rest =>
    if isDigit c && isDigit d then (c :: ·) <$> dropUnderscores? (d :: rest) else none
  | c :: d :: rest => (c :: ·) <$> dropUnderscores? (d :: rest)

/-- Splits off a sign; true for a minus. -/
def takeSign : List Char → Bool × List Char
  | '-' :: rest => (true, rest)
  | '+' :: rest => (false, rest)
  | cs => (false, cs)

/-- The text of a numeral without surrounding blanks and underscores. -/
def normalize? (s : String) : Option (List Char) :=
  dropUnderscores? (Text.trimWhile isSpace (s.toList.map plainChar))

def natOfDigits (digits : List Char) : Nat := digitsValue (digits.map digitValue)

/-- The decimal with the given whole digits, digits after the point, and exponent. -/
def decimal (whole fraction : List Char) (exponent : Int) : Decimal :=
  ⟨natOfDigits (whole ++ fraction), exponent - fraction.length⟩

/-- The exponent that a whole exponent part gives; no text is the exponent zero. -/
def exponent? : List Char → Option Int
  | [] => some 0
  | c :: rest =>
    if c == 'e' || c == 'E' then
      let (negative, digits) := takeSign rest
      if digits.isEmpty || !digits.all isDigit then none
      else some (if negative then -(natOfDigits digits : Int) else natOfDigits digits)
    else none

/-- Reads an unsigned decimal: digits on at least one side of an optional point, then an optional
exponent. -/
def unsignedDecimal? (cs : List Char) : Option Decimal :=
  let whole := cs.takeWhile isDigit
  let rest := cs.dropWhile isDigit
  let (fraction, rest) := match rest with
    | '.' :: after => (after.takeWhile isDigit, after.dropWhile isDigit)
    | _ => ([], rest)
  if whole.isEmpty && fraction.isEmpty then none
  else (exponent? rest).map (decimal whole fraction)

def int? (s : String) : Option Int := do
  let (negative, digits) := takeSign (← normalize? s)
  if digits.isEmpty || !digits.all isDigit then none
  else if negative then some (-(natOfDigits digits : Int))
  else some (natOfDigits digits)

/-- Reads a double. A number too large for a double gives an infinity. -/
def float? (s : String) : Option Binary64 := do
  let (negative, body) := takeSign (← normalize? s)
  match String.ofList (body.map Char.toLower) with
  | "inf" | "infinity" => some (.infinite negative)
  | "nan" => some .nan
  | _ => (unsignedDecimal? body).map (Binary64.ofDecimal negative)

end ModelGateway.Numeral
