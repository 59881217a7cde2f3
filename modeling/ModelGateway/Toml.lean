import ModelGateway.Toml.Tables

/-!
# Reading TOML

The reader follows TOML 1.0.
-/
namespace ModelGateway.Toml

inductive Fault where
  | statement
  | key
  | equalsSign
  | value
  /-- A date that the calendar does not have. -/
  | noSuchDate
  | header
  | unclosedText
  | controlCharacter
  | escape
  | unclosedArray
  | unclosedInlineTable
  | lineEnd
  | conflict (c : Conflict)
  deriving DecidableEq, Repr

/-- Ends every line with a single line feed. -/
def unifyLines : List Char → List Char
  | [] => []
  | '\r' :: '\n' :: rest => '\n' :: unifyLines rest
  | c :: rest => (if c = '\r' then '\n' else c) :: unifyLines rest

def isSpace (c : Char) : Bool := c == ' ' || c == '\t'

def isSpaceOrBreak (c : Char) : Bool := isSpace c || c == '\n'

/-- Control characters other than the tab. -/
def isControl (c : Char) : Bool := (c.toNat < 32 && c != '\t') || c.toNat == 127

def isBareKeyChar (c : Char) : Bool := c.isAlphanum || c == '-' || c == '_'

def skipSpace (cs : List Char) : List Char := cs.dropWhile isSpace

def skipComment : List Char → Except Fault (List Char)
  | '#' :: rest =>
    let comment := rest.takeWhile (· != '\n')
    if comment.any isControl then .error .controlCharacter
    else .ok (rest.dropWhile (· != '\n'))
  | cs => .ok cs

/-- Skips blanks, line ends and comments; the flag says whether a comment has begun. -/
def skipFiller : Bool → List Char → Except Fault (List Char)
  | _, [] => .ok []
  | true, c :: rest =>
    if c = '\n' then skipFiller false rest
    else if isControl c then .error .controlCharacter
    else skipFiller true rest
  | false, c :: rest =>
    if isSpaceOrBreak c then skipFiller false rest
    else if c = '#' then skipFiller true rest
    else .ok (c :: rest)

/-- Puts characters in front of the text that is read after them. -/
def prepend (cs : List Char) (read : Except Fault (List Char × List Char)) :
    Except Fault (List Char × List Char) :=
  read.map fun (text, rest) => (cs ++ text, rest)

def escapedChar? : Char → Option Char
  | 'b' => some '\x08'
  | 't' => some '\t'
  | 'n' => some '\n'
  | 'f' => some '\x0c'
  | 'r' => some '\r'
  | '"' => some '"'
  | '\\' => some '\\'
  | _ => none

def hexValue? (c : Char) : Option Nat :=
  if '0' ≤ c ∧ c ≤ '9' then some (c.toNat - '0'.toNat)
  else if 'a' ≤ c ∧ c ≤ 'f' then some (c.toNat - 'a'.toNat + 10)
  else if 'A' ≤ c ∧ c ≤ 'F' then some (c.toNat - 'A'.toNat + 10)
  else none

def codeChar? (digits : List Char) : Option Char := do
  let n := digitsValue16 (← digits.mapM hexValue?)
  if n.isValidChar then some (Char.ofNat n) else none
where
  digitsValue16 (digits : List Nat) : Nat := digits.foldl (fun n d => 16 * n + d) 0

def readEscape : List Char → Except Fault (Char × List Char)
  | 'u' :: rest => readCode 4 rest
  | 'U' :: rest => readCode 8 rest
  | c :: rest =>
    match escapedChar? c with
    | some x => .ok (x, rest)
    | none => .error .escape
  | [] => .error .escape
where
  readCode (width : Nat) (cs : List Char) : Except Fault (Char × List Char) :=
    if cs.length < width then .error .escape
    else match codeChar? (cs.take width) with
      | some c => .ok (c, cs.drop width)
      | none => .error .escape

/-- Reads the rest of a one-line text in double quotes; `fuel` bounds its length. -/
def readBasic : Nat → List Char → Except Fault (List Char × List Char)
  | 0, _ => .error .unclosedText
  | _ + 1, [] => .error .unclosedText
  | _ + 1, '"' :: rest => .ok ([], rest)
  | fuel + 1, '\\' :: rest => do
    let (c, rest) ← readEscape rest
    prepend [c] (readBasic fuel rest)
  | fuel + 1, c :: rest =>
    if isControl c then .error .controlCharacter else prepend [c] (readBasic fuel rest)

/-- Closes a text of several lines after its three quotes: up to two more quotes belong to it. -/
def closeLong (quote : Char) (rest : List Char) : List Char × List Char :=
  let extra := (rest.takeWhile (· == quote)).take 2
  (extra, rest.drop extra.length)

/-- Skips a line's end that is escaped, with the blanks around it. -/
def skipEscapedBreak (cs : List Char) : Except Fault (List Char) :=
  match skipSpace cs with
  | [] => .ok []
  | '\n' :: rest => .ok (rest.dropWhile isSpaceOrBreak)
  | _ => .error .escape

/-- Reads the rest of a text of several lines in double quotes; `fuel` bounds its length. -/
def readLongBasic : Nat → List Char → Except Fault (List Char × List Char)
  | 0, _ => .error .unclosedText
  | _ + 1, [] => .error .unclosedText
  | _ + 1, '"' :: '"' :: '"' :: rest => .ok (closeLong '"' rest)
  | fuel + 1, '\\' :: c :: rest =>
    if isSpaceOrBreak c then do
      readLongBasic fuel (← skipEscapedBreak (c :: rest))
    else do
      let (x, rest) ← readEscape (c :: rest)
      prepend [x] (readLongBasic fuel rest)
  | fuel + 1, c :: rest =>
    if c = '\\' then .error .escape
    else if isControl c && c != '\n' then .error .controlCharacter
    else prepend [c] (readLongBasic fuel rest)

def readLiteral : List Char → Except Fault (List Char × List Char)
  | [] => .error .unclosedText
  | '\'' :: rest => .ok ([], rest)
  | c :: rest => if isControl c then .error .controlCharacter else prepend [c] (readLiteral rest)

def readLongLiteral : List Char → Except Fault (List Char × List Char)
  | [] => .error .unclosedText
  | '\'' :: '\'' :: '\'' :: rest => .ok (closeLong '\'' rest)
  | c :: rest =>
    if isControl c && c != '\n' then .error .controlCharacter
    else prepend [c] (readLongLiteral rest)

/-- A line's end right after the opening quotes does not count. -/
def skipFirstBreak : List Char → List Char
  | '\n' :: rest => rest
  | cs => cs

def readKeyPart : List Char → Except Fault (String × List Char)
  | '"' :: rest => do
    let (text, rest) ← readBasic (rest.length + 1) rest
    return (String.ofList text, rest)
  | '\'' :: rest => do
    let (text, rest) ← readLiteral rest
    return (String.ofList text, rest)
  | cs =>
    let word := cs.takeWhile isBareKeyChar
    if word.isEmpty then .error .key
    else .ok (String.ofList word, cs.dropWhile isBareKeyChar)

/-- Reads a dotted key and the blanks after it; `fuel` bounds the number of its parts. -/
def readKeyWith : Nat → List Char → Except Fault (Path × List Char)
  | 0, _ => .error .key
  | fuel + 1, cs => do
    let (part, rest) ← readKeyPart cs
    match skipSpace rest with
    | '.' :: rest =>
      let (parts, rest) ← readKeyWith fuel (skipSpace rest)
      return (part :: parts, rest)
    | rest => return ([part], rest)

def readKey (cs : List Char) : Except Fault (Path × List Char) := readKeyWith (cs.length + 1) cs

/-- Splits off a run of digits with single underscores between them; the underscores are dropped. -/
def takeDigits (isDigit : Char → Bool) : List Char → List Char × List Char
  | '_' :: d :: rest =>
    if isDigit d then
      let (digits, rest) := takeDigits isDigit rest
      (d :: digits, rest)
    else ([], '_' :: d :: rest)
  | c :: rest =>
    if isDigit c then
      let (digits, rest) := takeDigits isDigit rest
      (c :: digits, rest)
    else ([], c :: rest)
  | [] => ([], [])

def takeNumeral (isDigit : Char → Bool) (cs : List Char) : List Char × List Char :=
  match cs with
  | c :: _ => if isDigit c then takeDigits isDigit cs else ([], cs)
  | [] => ([], [])

def isDigitBelow (base : Nat) (c : Char) : Bool :=
  match hexValue? c with
  | some d => d < base
  | none => false

def valueInBase (base : Nat) (digits : List Char) : Nat :=
  digits.foldl (fun n c => base * n + (hexValue? c).getD 0) 0

def readBased (base : Nat) (cs : List Char) : Option (Value × List Char) :=
  let (digits, rest) := takeNumeral (isDigitBelow base) cs
  if digits.isEmpty then none else some (.int (valueInBase base digits), rest)

def readPrefixed? : List Char → Option (Value × List Char)
  | '0' :: 'x' :: rest => readBased 16 rest
  | '0' :: 'o' :: rest => readBased 8 rest
  | '0' :: 'b' :: rest => readBased 2 rest
  | _ => none

def takeFraction (cs : List Char) : List Char × List Char :=
  match cs with
  | '.' :: rest =>
    let (digits, after) := takeNumeral Numeral.isDigit rest
    if digits.isEmpty then ([], cs) else (digits, after)
  | _ => ([], cs)

def takeExponent (cs : List Char) : Option Int × List Char :=
  match cs with
  | c :: rest =>
    if c == 'e' || c == 'E' then
      let (negative, body) := Numeral.takeSign rest
      let (digits, after) := takeNumeral Numeral.isDigit body
      if digits.isEmpty then (none, cs)
      else
        let n : Int := Numeral.natOfDigits digits
        (some (if negative then -n else n), after)
    else (none, cs)
  | [] => (none, [])

/-- Reads a decimal number or one of the words for infinity and NaN. -/
def readDecimal (cs : List Char) : Except Fault (Value × List Char) :=
  let (negative, body) := Numeral.takeSign cs
  match body with
  | 'i' :: 'n' :: 'f' :: rest => .ok (.float (.infinite negative), rest)
  | 'n' :: 'a' :: 'n' :: rest => .ok (.float .nan, rest)
  | _ =>
    let (whole, rest) := match body with
      | '0' :: rest => (['0'], rest)
      | _ => takeNumeral Numeral.isDigit body
    let (fraction, rest) := takeFraction rest
    let (exponent, rest) := takeExponent rest
    if whole.isEmpty then .error .value
    else if fraction.isEmpty && exponent.isNone then
      let n : Int := Numeral.natOfDigits whole
      .ok (.int (if negative then -n else n), rest)
    else
      .ok (.float (Binary64.ofDecimal negative
        (Numeral.decimal whole fraction (exponent.getD 0))), rest)

def readNumber (cs : List Char) : Except Fault (Value × List Char) :=
  match readPrefixed? cs with
  | some read => .ok read
  | none => readDecimal cs

/-- Reads a date, a time or a number, none of which has a mark in front of it. -/
def readUnmarked (cs : List Char) : Except Fault (Node × List Char) :=
  match readMoment cs with
  | some (true, moment, rest) => .ok (.moment moment, rest)
  | some (false, _) => .error .noSuchDate
  | none => (readNumber cs).map fun (v, rest) => (.scalar v, rest)

def readText : List Char → Except Fault (List Char × List Char)
  | '"' :: '"' :: '"' :: rest => readLongBasic (rest.length + 1) (skipFirstBreak rest)
  | '"' :: rest => readBasic (rest.length + 1) rest
  | '\'' :: '\'' :: '\'' :: rest => readLongLiteral (skipFirstBreak rest)
  | '\'' :: rest => readLiteral rest
  | _ => .error .value

mutual

/-- Reads a value. Every value and every array or inline table behind a bracket takes one unit of
`fuel`, so twice the number of characters is enough. -/
def readValue : Nat → List Char → Except Fault (Node × List Char)
  | 0, _ => .error .value
  | fuel + 1, cs =>
    match cs with
    | '"' :: _ | '\'' :: _ => do
      let (text, rest) ← readText cs
      return (.scalar (.text (String.ofList text)), rest)
    | 't' :: 'r' :: 'u' :: 'e' :: rest => .ok (.scalar (.bool true), rest)
    | 'f' :: 'a' :: 'l' :: 's' :: 'e' :: rest => .ok (.scalar (.bool false), rest)
    | '[' :: rest => do
      let (items, rest) ← readItems fuel (← skipFiller false rest)
      return (.list items, rest)
    | '{' :: rest =>
      match skipSpace rest with
      | '}' :: rest => .ok (.table [], rest)
      | rest => do
        let (table, rest) ← readInline fuel .empty rest
        return (.table table.root, rest)
    | cs => readUnmarked cs

def readItems : Nat → List Char → Except Fault (List Node × List Char)
  | 0, _ => .error .unclosedArray
  | fuel + 1, cs =>
    match cs with
    | ']' :: rest => .ok ([], rest)
    | cs => do
      let (n, rest) ← readValue fuel cs
      match ← skipFiller false rest with
      | ']' :: rest => return ([n], rest)
      | ',' :: rest =>
        let (items, rest) ← readItems fuel (← skipFiller false rest)
        return (n :: items, rest)
      | _ => .error .unclosedArray

def readInline : Nat → InlineTable → List Char → Except Fault (InlineTable × List Char)
  | 0, _, _ => .error .unclosedInlineTable
  | fuel + 1, table, cs => do
    let (path, rest) ← readKey cs
    match rest with
    | '=' :: rest =>
      let (n, rest) ← readValue fuel (skipSpace rest)
      let table ← (table.assign path n).mapError .conflict
      match skipSpace rest with
      | '}' :: rest => return (table, rest)
      | ',' :: rest => readInline fuel table (skipSpace rest)
      | _ => .error .unclosedInlineTable
    | _ => .error .equalsSign

end

def readAssignment (d : Document) (header : Path) (cs : List Char) :
    Except Fault (Document × List Char) := do
  let (path, rest) ← readKey cs
  match rest with
  | '=' :: rest =>
    let (n, rest) ← readValue (2 * rest.length + 1) (skipSpace rest)
    return (← (d.assign header path n).mapError .conflict, rest)
  | _ => .error .equalsSign

def readHeader (d : Document) (cs : List Char) :
    Except Fault (Document × Path × List Char) := do
  match cs with
  | '[' :: rest =>
    let (path, rest) ← readKey (skipSpace rest)
    let d ← (d.settle.openListTable path).mapError .conflict
    match rest with
    | ']' :: ']' :: rest => return (d, path, rest)
    | _ => .error .header
  | _ =>
    let (path, rest) ← readKey (skipSpace cs)
    let d ← (d.settle.openTable path).mapError .conflict
    match rest with
    | ']' :: rest => return (d, path, rest)
    | _ => .error .header

def readStatement (d : Document) (header : Path) (cs : List Char) :
    Except Fault (Document × Path × List Char) :=
  match cs with
  | [] | '\n' :: _ | '#' :: _ => .ok (d, header, cs)
  | '[' :: rest => readHeader d rest
  | c :: _ =>
    if isBareKeyChar c || c == '"' || c == '\'' then
      (readAssignment d header cs).map fun (d, rest) => (d, header, rest)
    else .error .statement

/-- Reads statements up to the end of the text; `fuel` bounds their number. -/
def readStatements : Nat → Document → Path → List Char → Except Fault Document
  | 0, d, _, _ => .ok d
  | fuel + 1, d, header, cs => do
    let (d, header, rest) ← readStatement d header (skipSpace cs)
    match ← skipComment (skipSpace rest) with
    | [] => return d
    | '\n' :: rest => readStatements fuel d header rest
    | _ => .error .lineEnd

/-- The table that a text holds; its lines end in line feeds. -/
def parse (text : String) : Except Fault Table := do
  return (← readStatements (text.length + 1) .empty [] text.toList).root

end ModelGateway.Toml
