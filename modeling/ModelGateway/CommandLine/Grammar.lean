import ModelGateway.Text.DecimalDigit

/-!
# Command line arguments

A grammar says which options a command takes and what its other arguments are. An argument is an
option if it starts with a dash and is an option's name or an unambiguous beginning of one; negative
numbers, texts with a space and everything after `--` are plain arguments. What is attached to an
option's name is its argument, but an attached `--` is taken away. Options that are not known are
collected.
-/
namespace ModelGateway.CommandLine

/-- Why parsing stops without a command: help was asked for, or the arguments are wrong. -/
inductive Stop where
  | help
  | misuse
  deriving DecidableEq, Repr

inductive OptionShape where
  /-- Takes one argument, which has to satisfy a test. -/
  | value (valid : String → Bool)
  | flag
  | help

structure OptionSpec where
  name : String
  shape : OptionShape

inductive Positional where
  | none
  | words
  /-- A command with all arguments after it. -/
  | command

structure Grammar where
  options : List OptionSpec
  positional : Positional

inductive Attached where
  | nothing
  | afterEquals (text : String)
  | joined (text : String)

inductive Given where
  | text (s : String)
  /-- The option's name stood with an attached `--`. -/
  | nothing
  deriving DecidableEq, Repr

namespace Given

def ofAttached (text : String) : Given := if text = "--" then nothing else .text text

def text? : Given → Option String
  | text s => some s
  | nothing => none

def meets (valid : String → Bool) : Given → Bool
  | text s => valid s
  | nothing => true

end Given

inductive Token where
  | option (spec : OptionSpec) (attached : Attached)
  | unknown (text : String)
  | plain (text : String)
  | divider

/-- Splits `name=text`. -/
def splitEquals (cs : List Char) : List Char × Option (List Char) :=
  (cs.takeWhile (· ≠ '='), match cs.dropWhile (· ≠ '=') with
    | _ :: rest => some rest
    | [] => none)

/-- What stands after an equals sign, if there is one. -/
def attachedText : Option (List Char) → Attached
  | some text => .afterEquals (String.ofList text)
  | none => .nothing

def isDecimal (c : Char) : Bool := (Text.decimalDigit? c).isSome

/-- Whether a text reads as a negative number: digits after the dash, or digits after a point. -/
def isNegativeNumber (cs : List Char) : Bool :=
  match (if cs.getLast? = some '\n' then cs.dropLast else cs) with
  | '-' :: rest =>
    let whole := rest.takeWhile isDecimal
    match rest.dropWhile isDecimal with
    | [] => !whole.isEmpty
    | '.' :: fraction => !fraction.isEmpty && fraction.all isDecimal
    | _ => false
  | _ => false

namespace Grammar

def named? (g : Grammar) (name : List Char) : Option OptionSpec :=
  g.options.find? fun spec => spec.name.toList == name

/-- The options that an argument may stand for by the beginning of their names. -/
def candidates (g : Grammar) (cs : List Char) : List (OptionSpec × Attached) :=
  match cs with
  | '-' :: '-' :: _ =>
    let (name, text) := splitEquals cs
    (g.options.filter fun spec => name.isPrefixOf spec.name.toList).map fun spec =>
      (spec, attachedText text)
  | '-' :: letter :: rest =>
    (g.options.filter fun spec => spec.name.toList == ['-', letter]).map fun spec =>
      (spec, .joined (String.ofList rest))
  | _ => []

/-- Classes an argument in front of any divider. -/
def classify (g : Grammar) (arg : String) : Except Stop Token :=
  let cs := arg.toList
  let (name, text) := splitEquals cs
  if cs.head? ≠ some '-' then .ok (.plain arg)
  else match g.named? cs with
    | some spec => .ok (.option spec .nothing)
    | none =>
      if cs.length = 1 then .ok (.plain arg)
      else match text, g.named? name with
        | some text, some spec => .ok (.option spec (.afterEquals (String.ofList text)))
        | _, _ =>
          match g.candidates cs with
          | [(spec, attached)] => .ok (.option spec attached)
          | _ :: _ :: _ => .error .misuse
          | [] =>
            if isNegativeNumber cs || cs.contains ' ' then .ok (.plain arg) else .ok (.unknown arg)

def tokens (g : Grammar) : List String → Except Stop (List Token)
  | [] => .ok []
  | arg :: rest =>
    if arg = "--" then .ok (.divider :: rest.map .plain)
    else do
      let token ← g.classify arg
      return token :: (← tokens g rest)

end Grammar

structure Collected where
  values : List (String × Given)
  flags : List String
  words : Option (List String)
  command : Option (List String)
  /-- Whether something was left that nothing takes. -/
  surplus : Bool

namespace Collected

def start : Collected := ⟨[], [], none, none, false⟩

def addValue (c : Collected) (name : String) (value : Given) : Collected :=
  { c with values := c.values ++ [(name, value)] }

def addFlag (c : Collected) (name : String) : Collected := { c with flags := c.flags ++ [name] }

def addWord (c : Collected) (word : String) : Collected :=
  { c with words := some (c.words.getD [] ++ [word]) }

def spill (c : Collected) : Collected := { c with surplus := true }

/-- What an option has been given last. -/
def last? (c : Collected) (name : String) : Option Given :=
  (c.values.reverse.find? fun v => v.1 == name).map Prod.snd

def text? (c : Collected) (name : String) : Option String := (c.last? name).bind Given.text?

def all (c : Collected) (name : String) : List Given :=
  (c.values.filter fun v => v.1 == name).map Prod.snd

end Collected

/-- What a text attached to the name of an option that asks for help leads to. Behind the short name
it is read as more short options, and only `h` is one; the long name takes no text. -/
def helpWith (name text : String) : Stop :=
  if name = "-h" ∧ text ≠ "" ∧ text.toList.all (· == 'h') then .help else .misuse

/-- Takes tokens in order. `inWords` says whether the words have begun and no option has come
since; `args` are the arguments behind the tokens. -/
def collect (positional : Positional) (inWords : Bool) (c : Collected) :
    List Token → List String → Except Stop Collected
  | [], _ => .ok c
  | .unknown _ :: rest, args => collect positional false c.spill rest args.tail
  | .option spec attached :: rest, args =>
    match spec.shape, attached with
    | .help, .nothing => .error .help
    | .help, .joined text | .help, .afterEquals text => .error (helpWith spec.name text)
    | .flag, .nothing => collect positional false (c.addFlag spec.name) rest args.tail
    | .flag, _ => .error .misuse
    | .value valid, .afterEquals text | .value valid, .joined text =>
      let given := Given.ofAttached text
      if given.meets valid then collect positional false (c.addValue spec.name given) rest args.tail
      else .error .misuse
    | .value valid, .nothing =>
      match rest with
      | .plain text :: rest =>
        if valid text then
          collect positional false (c.addValue spec.name (.text text)) rest args.tail.tail
        else .error .misuse
      | _ => .error .misuse
  | .divider :: rest, args =>
    match positional with
    | .none => collect positional false c.spill rest args.tail
    | .words =>
      if inWords then collect positional true c rest args.tail
      else if c.words.isNone && !rest.isEmpty then
        collect positional true { c with words := some [] } rest args.tail
      else collect positional false c.spill rest args.tail
    | .command => .error .misuse
  | .plain text :: rest, args =>
    match positional with
    | .none => collect positional false c.spill rest args.tail
    | .words =>
      if inWords || c.words.isNone then collect positional true (c.addWord text) rest args.tail
      else collect positional false c.spill rest args.tail
    | .command => .ok { c with command := some args }

def Grammar.parse (g : Grammar) (args : List String) : Except Stop Collected := do
  collect g.positional false .start (← g.tokens args) args

end ModelGateway.CommandLine
