import ModelGateway.Text.Blank
import ModelGateway.Text.Case
import ModelGateway.Value.Display

/-!
# Options

An option is looked up in the options that a program was given and then, under its name in
uppercase, in the environment. Blank values count as missing.
-/
namespace ModelGateway

abbrev Environment := List (String × String)

def Environment.value? (env : Environment) (name : String) : Option String := env.lookup name

/-- Options as a program was given them. -/
abbrev Options := Option Object

namespace Options

def value (options : Options) (key : String) : Value :=
  match options with
  | some o => Object.value o key
  | none => .null

end Options

/-- A text without surrounding blanks, unless nothing is left of it. -/
def nonBlank? (s : String) : Option String :=
  let text := Text.strip s
  if text = "" then none else some text

/-- The stripped display of a value that counts as present, unless nothing is left of it. -/
def Value.optionalText (v : Value) : Option String := nonBlank? v.displayOrEmpty

namespace Options

def text? (options : Options) (env : Environment) (key : String) : Option String :=
  (options.value key).optionalText <|> (env.value? (Text.upper key)).bind nonBlank?

def yesWords : List String := ["1", "true", "yes", "y", "on"]

def noWords : List String := ["0", "false", "no", "n", "off"]

def isYes (v : Value) : Bool := yesWords.contains (Text.lower (Text.strip v.displayOrEmpty))

/-- A yes-or-no option. A boolean speaks for itself, any other value by its text. -/
def flag (options : Options) (env : Environment) (key : String) (default : Bool) : Bool :=
  match options.value key with
  | .bool b => b
  | _ =>
    match options.text? env key with
    | some text => isYes (.text text)
    | none => default

end Options
end ModelGateway
