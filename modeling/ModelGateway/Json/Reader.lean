import ModelGateway.Value
import ModelGateway.Numeral

/-!
# Reading JSON

The grammar is that of RFC 8259 with three more numbers, `NaN`, `Infinity` and `-Infinity`. A
number without a fraction and an exponent is an integer of any size. Of several members with one
key the object keeps the place of the first and the value of the last. An error names the first
character that cannot be read.
-/
namespace ModelGateway.Json

inductive Problem where
  | value
  | name
  | colon
  | comma
  | unterminatedText
  | controlCharacter
  | escape
  | unicodeEscape
  | extraData
  | byteOrderMark
  deriving DecidableEq, Repr

def Problem.message : Problem → String
  | value => "Expecting value"
  | name => "Expecting property name enclosed in double quotes"
  | colon => "Expecting ':' delimiter"
  | comma => "Expecting ',' delimiter"
  | unterminatedText => "Unterminated string starting at"
  | controlCharacter => "Invalid control character at"
  | escape => "Invalid \\escape"
  | unicodeEscape => "Invalid \\uXXXX escape"
  | extraData => "Extra data"
  | byteOrderMark => "Unexpected UTF-8 BOM (decode using utf-8-sig)"

/-- A problem, with the text from the character where it shows. -/
structure Halt where
  problem : Problem
  rest : List Char

def isSpace (c : Char) : Bool := c == ' ' || c == '\t' || c == '\n' || c == '\r'

def skipSpace (cs : List Char) : List Char := cs.dropWhile isSpace

def hexValue? (c : Char) : Option Nat :=
  if '0' ≤ c ∧ c ≤ '9' then some (c.toNat - '0'.toNat)
  else if 'a' ≤ c ∧ c ≤ 'f' then some (c.toNat - 'a'.toNat + 10)
  else if 'A' ≤ c ∧ c ≤ 'F' then some (c.toNat - 'A'.toNat + 10)
  else none

def codeUnit? (a b c d : Char) : Option Nat := do
  return (((← hexValue? a) * 16 + (← hexValue? b)) * 16 + (← hexValue? c)) * 16 + (← hexValue? d)

def isHighSurrogate (n : Nat) : Bool := 0xD800 ≤ n && n < 0xDC00
def isLowSurrogate (n : Nat) : Bool := 0xDC00 ≤ n && n < 0xE000

/-- Stands for a surrogate that has no partner, as a text read here holds characters only. Whether a text
that it came from can be shown is for the output to say. -/
def loneSurrogate : Char := '\uFFFD'

def pairChar (high low : Nat) : Char :=
  Char.ofNat (0x10000 + (high - 0xD800) * 0x400 + (low - 0xDC00))

/-- The characters that a held high surrogate leaves when no partner follows it. -/
def release : Option Nat → List Char
  | none => []
  | some _ => [loneSurrogate]

/-- The characters that become certain when a code unit follows a held high surrogate, and the high
surrogate held from then on. -/
def joinUnit (held : Option Nat) (n : Nat) : List Char × Option Nat :=
  if isHighSurrogate n then (release held, some n)
  else if isLowSurrogate n then
    (match held with
      | some high => [pairChar high n]
      | none => [loneSurrogate], none)
  else (release held ++ [Char.ofNat n], none)

def escapedChar? : Char → Option Char
  | '"' => some '"'
  | '\\' => some '\\'
  | '/' => some '/'
  | 'b' => some '\x08'
  | 'f' => some '\x0c'
  | 'n' => some '\n'
  | 'r' => some '\r'
  | 't' => some '\t'
  | _ => none

/-- Puts characters in front of the text that is read after them. -/
def prepend (cs : List Char) (read : Except Halt (List Char × List Char)) :
    Except Halt (List Char × List Char) :=
  read.map fun (text, rest) => (cs ++ text, rest)

/-- Reads the rest of a text after its opening quote; `opening` starts at that quote, and a high
surrogate just read is held until the next character is known. -/
def readText (opening : List Char) :
    Option Nat → List Char → Except Halt (List Char × List Char)
  | _, [] => .error ⟨.unterminatedText, opening⟩
  | held, '"' :: rest => .ok (release held, rest)
  | held, '\\' :: 'u' :: a :: b :: c :: d :: e :: rest =>
    match codeUnit? a b c d with
    | none => .error ⟨.unicodeEscape, 'u' :: a :: b :: c :: d :: e :: rest⟩
    | some n => prepend (joinUnit held n).1 (readText opening (joinUnit held n).2 (e :: rest))
  | held, '\\' :: c :: rest =>
    if c = 'u' then .error ⟨.unicodeEscape, c :: rest⟩
    else match escapedChar? c with
      | some x => prepend (release held ++ [x]) (readText opening none rest)
      | none => .error ⟨.escape, '\\' :: c :: rest⟩
  | held, c :: rest =>
    if c = '\\' then .error ⟨.unterminatedText, opening⟩
    else if c.toNat < 32 then .error ⟨.controlCharacter, c :: rest⟩
    else prepend (release held ++ [c]) (readText opening none rest)

/-- The text after `word`, when it starts with it. -/
def after? (word : String) (cs : List Char) : Option (List Char) :=
  if word.toList.isPrefixOf cs then some (cs.drop word.toList.length) else none

/-- Splits off the whole digits of a number: a zero stands alone. -/
def takeWhole : List Char → List Char × List Char
  | '0' :: rest => (['0'], rest)
  | cs => (cs.takeWhile Numeral.isDigit, cs.dropWhile Numeral.isDigit)

/-- Splits off a fraction: a point and at least one digit. -/
def takeFraction : List Char → List Char × List Char
  | '.' :: rest =>
    let digits := rest.takeWhile Numeral.isDigit
    if digits.isEmpty then ([], '.' :: rest) else (digits, rest.dropWhile Numeral.isDigit)
  | cs => ([], cs)

/-- Splits off an exponent part: its letter, an optional sign and at least one digit. -/
def takeExponent (cs : List Char) : Option Int × List Char :=
  match cs with
  | c :: rest =>
    if c == 'e' || c == 'E' then
      let (negative, body) := Numeral.takeSign rest
      let digits := body.takeWhile Numeral.isDigit
      if digits.isEmpty then (none, cs)
      else
        let n : Int := Numeral.natOfDigits digits
        (some (if negative then -n else n), body.dropWhile Numeral.isDigit)
    else (none, cs)
  | [] => (none, [])

def readNumber (cs : List Char) : Except Halt (Value × List Char) :=
  let (negative, body) := match cs with
    | '-' :: rest => (true, rest)
    | _ => (false, cs)
  let (whole, rest) := takeWhole body
  let (fraction, rest) := takeFraction rest
  let (exponent, rest) := takeExponent rest
  if whole.isEmpty then .error ⟨.value, cs⟩
  else if fraction.isEmpty && exponent.isNone then
    let n : Int := Numeral.natOfDigits whole
    .ok (.int (if negative then -n else n), rest)
  else
    .ok (.float (Binary64.ofDecimal negative
      (Numeral.decimal whole fraction (exponent.getD 0))), rest)

def words : List (String × Value) :=
  [("null", .null), ("true", .bool true), ("false", .bool false), ("NaN", .float .nan),
   ("Infinity", .float (.infinite false)), ("-Infinity", .float (.infinite true))]

def readWord? (cs : List Char) : Option (Value × List Char) :=
  words.findSome? fun (word, v) => (after? word cs).map fun rest => (v, rest)

mutual

/-- Reads one value. Every value and every list or object behind a bracket takes one unit of `fuel`,
so twice the number of characters is enough. -/
def readValue : Nat → List Char → Except Halt (Value × List Char)
  | 0, cs => .error ⟨.value, cs⟩
  | fuel + 1, cs =>
    match cs with
    | '"' :: rest => do
      let (s, rest) ← readText cs none rest
      return (.text (String.ofList s), rest)
    | '{' :: rest =>
      match skipSpace rest with
      | '}' :: rest => .ok (.object [], rest)
      | rest => do
        let (members, rest) ← readMembers fuel rest
        return (.object (Object.ofMembers members), rest)
    | '[' :: rest =>
      match skipSpace rest with
      | ']' :: rest => .ok (.list [], rest)
      | rest => do
        let (items, rest) ← readItems fuel rest
        return (.list items, rest)
    | cs =>
      match readWord? cs with
      | some read => .ok read
      | none => readNumber cs

def readMembers : Nat → List Char → Except Halt (List (String × Value) × List Char)
  | 0, cs => .error ⟨.name, cs⟩
  | fuel + 1, cs =>
    match cs with
    | '"' :: rest => do
      let (key, rest) ← readText cs none rest
      match skipSpace rest with
      | ':' :: rest =>
        let (v, rest) ← readValue fuel (skipSpace rest)
        match skipSpace rest with
        | '}' :: rest => return ([(String.ofList key, v)], rest)
        | ',' :: rest =>
          let (members, rest) ← readMembers fuel (skipSpace rest)
          return ((String.ofList key, v) :: members, rest)
        | rest => .error ⟨.comma, rest⟩
      | rest => .error ⟨.colon, rest⟩
    | cs => .error ⟨.name, cs⟩

def readItems : Nat → List Char → Except Halt (List Value × List Char)
  | 0, cs => .error ⟨.value, cs⟩
  | fuel + 1, cs => do
    let (v, rest) ← readValue fuel cs
    match skipSpace rest with
    | ']' :: rest => return ([v], rest)
    | ',' :: rest =>
      let (items, rest) ← readItems fuel (skipSpace rest)
      return (v :: items, rest)
    | rest => .error ⟨.comma, rest⟩

end

def readDocument (cs : List Char) : Except Halt Value :=
  match cs with
  | '\uFEFF' :: _ => .error ⟨.byteOrderMark, cs⟩
  | _ => do
    let (v, rest) ← readValue (2 * cs.length + 1) (skipSpace cs)
    match skipSpace rest with
    | [] => return v
    | rest => .error ⟨.extraData, rest⟩

/-- Why a text is not JSON, and at which character. -/
structure Fault where
  problem : Problem
  /-- The characters before the one at fault. -/
  before : List Char
  deriving DecidableEq, Repr

namespace Fault

def ofHalt (cs : List Char) (h : Halt) : Fault := ⟨h.problem, cs.take (cs.length - h.rest.length)⟩

def offset (f : Fault) : Nat := f.before.length

/-- Lines are counted from one. -/
def line (f : Fault) : Nat := f.before.count '\n' + 1

/-- Columns are counted from one, in characters. -/
def column (f : Fault) : Nat := (f.before.reverse.takeWhile (· != '\n')).length + 1

def message (f : Fault) : String :=
  s!"{f.problem.message}: line {f.line} column {f.column} (char {f.offset})"

end Fault

def parse (s : String) : Except Fault Value :=
  (readDocument s.toList).mapError (Fault.ofHalt s.toList)

end ModelGateway.Json
