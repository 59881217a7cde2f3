import ModelGateway.Numeral
import ModelGateway.Value

/-!
# Conversions of values

Where a list, a double or a text is wanted, other values are converted if they can be.
-/
namespace ModelGateway

/-- Why a datum cannot be used as it has to be. -/
inductive Conversion where
  /-- Neither a list, nor a text, nor an object, where items are wanted. -/
  | notIterable
  /-- No number and no text, where a number is wanted. -/
  | notNumeric
  /-- A text that spells no number. -/
  | unreadableNumber
  /-- An integer beyond the largest double. -/
  | numberTooLarge
  /-- Something other than a text, where texts are joined. -/
  | notText
  /-- A value that JSON has no form for, where JSON is written. -/
  | notWritable
  /-- Too few or too many arguments. -/
  | arguments
  deriving DecidableEq, Repr

namespace Value

/-- The items of a value: those of a list or a tuple, the characters of a text, the keys of an
object. -/
def iterate : Value → Except Conversion (List Value)
  | list items => .ok items
  | tuple items => .ok items
  | text s => .ok (s.toList.map fun c => text (String.singleton c))
  | object members => .ok (members.map fun m => text m.1)
  | _ => .error .notIterable

/-- The items of a value that counts as present; none otherwise. -/
def elements (v : Value) : Except Conversion (List Value) :=
  if v.isTruthy then v.iterate else .ok []

/-- The objects among the items of a value. -/
def elementObjects (v : Value) : Except Conversion (List Object) :=
  v.elements.map fun items => items.filterMap fun
    | object o => some o
    | _ => none

/-- The double that an integer becomes. -/
def floatOfInt (n : Int) : Except Conversion Binary64 :=
  match Binary64.ofInt? n with
  | some x => .ok x
  | none => .error .numberTooLarge

/-- The double that a value becomes: numbers and booleans convert, texts are read. -/
def toFloat : Value → Except Conversion Binary64
  | float x => .ok x
  | int n => floatOfInt n
  | bool b => .ok (if b then 1.0 else 0.0)
  | text s =>
    match Numeral.float? s with
    | some x => .ok x
    | none => .error .unreadableNumber
  | _ => .error .notNumeric

/-- The texts among values that have to be texts throughout. -/
def toTexts : List Value → Except Conversion (List String)
  | [] => .ok []
  | text s :: rest => (s :: ·) <$> toTexts rest
  | _ :: _ => .error .notText

end Value
end ModelGateway
