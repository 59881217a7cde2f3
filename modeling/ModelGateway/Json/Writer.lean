import ModelGateway.Value.Display

/-!
# Writing JSON

One writer serves every place that prints JSON; a style says how items are separated, whether the
text is spread over lines, whether keys are sorted and whether characters beyond ASCII are escaped.

JSON has no form for a chat message. Logs and fingerprints write its display instead; requests
that hold one are refused before they are written.
-/
namespace ModelGateway.Json

structure Style where
  comma : List Char
  colon : List Char
  /-- The spaces for each level when every item has a line of its own. -/
  indent : Option Nat
  sortKeys : Bool
  asciiOnly : Bool

namespace Style

/-- One line, keys in their order, characters as they are. -/
def line : Style := ⟨[',', ' '], [':', ' '], none, false, false⟩

/-- One line without spaces, keys sorted, ASCII only. -/
def canonical : Style := ⟨[','], [':'], none, true, true⟩

/-- A line for each item, two spaces for each level. -/
def indented : Style := ⟨[','], [':', ' '], some 2, false, false⟩

def lineBreak (style : Style) (level : Nat) : List Char :=
  match style.indent with
  | none => []
  | some n => '\n' :: List.replicate (n * level) ' '

end Style

def hexDigit (n : Nat) : Char := if n < 10 then Char.ofNat (48 + n) else Char.ofNat (87 + n)

def unitEscape (n : Nat) : List Char :=
  ['\\', 'u', hexDigit (n / 4096 % 16), hexDigit (n / 256 % 16), hexDigit (n / 16 % 16),
    hexDigit (n % 16)]

/-- The escapes of a character beyond ASCII: one code unit, or a surrogate pair. -/
def codeEscape (n : Nat) : List Char :=
  if n < 0x10000 then unitEscape n
  else unitEscape (0xD800 + (n - 0x10000) / 0x400) ++ unitEscape (0xDC00 + (n - 0x10000) % 0x400)

def writeChar (asciiOnly : Bool) (c : Char) : List Char :=
  if c = '"' then ['\\', '"']
  else if c = '\\' then ['\\', '\\']
  else if c = '\n' then ['\\', 'n']
  else if c = '\r' then ['\\', 'r']
  else if c = '\t' then ['\\', 't']
  else if c = '\x0c' then ['\\', 'f']
  else if c = '\x08' then ['\\', 'b']
  else if c.toNat < 32 then unitEscape c.toNat
  else if asciiOnly && 126 < c.toNat then codeEscape c.toNat
  else [c]

def writeText (asciiOnly : Bool) (s : String) : List Char :=
  '"' :: (s.toList.flatMap (writeChar asciiOnly) ++ ['"'])

def writeFloat (x : Binary64) : List Char :=
  x.textWith "NaN".toList "Infinity".toList

def enclose (style : Style) (level : Nat) (opening closing : Char) (items : List (List Char)) :
    List Char :=
  if items.isEmpty then [opening, closing]
  else
    opening :: (style.lineBreak (level + 1) ++
      List.intercalate (style.comma ++ style.lineBreak (level + 1)) items ++
      style.lineBreak level ++ [closing])

/-- Members in the order in which a style writes them. -/
def arrange (style : Style) (members : List (String × List Char)) : List (String × List Char) :=
  if style.sortKeys then members.mergeSort fun a b => !decide (b.1 < a.1) else members

mutual

def write (style : Style) (level : Nat) : Value → List Char
  | .null => "null".toList
  | .bool true => "true".toList
  | .bool false => "false".toList
  | .int n => (intText n).toList
  | .float x => writeFloat x
  | .text s => writeText style.asciiOnly s
  | .list items => enclose style level '[' ']' (writeItems style (level + 1) items)
  | .tuple items => enclose style level '[' ']' (writeItems style (level + 1) items)
  | .object members =>
    enclose style level '{' '}' ((arrange style (writeMembers style (level + 1) members)).map
      fun m => writeText style.asciiOnly m.1 ++ style.colon ++ m.2)
  | .message role content => writeText style.asciiOnly (Value.message role content).display

def writeItems (style : Style) (level : Nat) : List Value → List (List Char)
  | [] => []
  | v :: vs => write style level v :: writeItems style level vs

def writeMembers (style : Style) (level : Nat) : List (String × Value) → List (String × List Char)
  | [] => []
  | (key, v) :: rest => (key, write style level v) :: writeMembers style level rest

end

mutual

/-- Whether JSON has a form for a value: no chat message stands anywhere in it. -/
def canWrite : Value → Bool
  | .list items => canWriteItems items
  | .tuple items => canWriteItems items
  | .object members => canWriteMembers members
  | .message .. => false
  | _ => true

def canWriteItems : List Value → Bool
  | [] => true
  | v :: vs => canWrite v && canWriteItems vs

def canWriteMembers : List (String × Value) → Bool
  | [] => true
  | (_, v) :: rest => canWrite v && canWriteMembers rest

end

def render (style : Style) (v : Value) : String := String.ofList (write style 0 v)

end ModelGateway.Json
