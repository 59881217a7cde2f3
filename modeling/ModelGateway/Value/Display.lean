import ModelGateway.Value
import ModelGateway.Binary64.Shortest
import ModelGateway.Text.Printable

/-!
# The display form of values

A text displays as itself. Inside a container, and in messages that quote a value, a text is put
in single quotes (double quotes if it holds a single quote and no double quote) and what cannot be
printed is escaped.
-/
namespace ModelGateway

namespace Text

/-- The last `width` hexadecimal digits of a number. -/
def hexDigits (width n : Nat) : List Char :=
  (List.range width).reverse.map fun i => Nat.digitChar (n / Nat.pow 16 i % 16)

def quoteChar (quote c : Char) : List Char :=
  if c = quote ∨ c = '\\' then ['\\', c]
  else if c = '\n' then ['\\', 'n']
  else if c = '\r' then ['\\', 'r']
  else if c = '\t' then ['\\', 't']
  else if isPrintable c then [c]
  else if c.toNat < 0x100 then '\\' :: 'x' :: hexDigits 2 c.toNat
  else if c.toNat < 0x10000 then '\\' :: 'u' :: hexDigits 4 c.toNat
  else '\\' :: 'U' :: hexDigits 8 c.toNat

def quoted (s : String) : List Char :=
  let cs := s.toList
  let quote := if cs.contains '\'' && !cs.contains '"' then '"' else '\''
  quote :: (cs.flatMap (quoteChar quote) ++ [quote])

end Text

namespace Value

def separated (items : List (List Char)) : List Char := List.intercalate [',', ' '] items

mutual

/-- The form of a value inside a container. -/
def quotedForm : Value → List Char
  | null => "None".toList
  | bool true => "True".toList
  | bool false => "False".toList
  | int n => (intText n).toList
  | float x => x.textWith "nan".toList "inf".toList
  | text s => Text.quoted s
  | list items => '[' :: (separated (quotedItems items) ++ [']'])
  | tuple [item] => '(' :: (quotedForm item ++ [',', ')'])
  | tuple items => '(' :: (separated (quotedItems items) ++ [')'])
  | object members => '{' :: (separated (quotedMembers members) ++ ['}'])
  | message role content =>
    "ChatMessage(role=".toList ++ Text.quoted role ++ ", content=".toList ++
      quotedForm content ++ [')']

def quotedItems : List Value → List (List Char)
  | [] => []
  | v :: vs => quotedForm v :: quotedItems vs

def quotedMembers : List (String × Value) → List (List Char)
  | [] => []
  | (key, v) :: rest => (Text.quoted key ++ ':' :: ' ' :: quotedForm v) :: quotedMembers rest

end

/-- A value as messages quote it. -/
def quote (v : Value) : String := String.ofList v.quotedForm

def display : Value → String
  | text s => s
  | v => v.quote

/-- The display of a value that counts as present, otherwise the empty text. -/
def displayOrEmpty (v : Value) : String := if v.isTruthy then v.display else ""

end Value
end ModelGateway
