import ModelGateway.CommandLine.Grammar
import ModelGateway.Numeral
import ModelGateway.Value

/-!
# The commands and their options

What an option is given becomes a value of a request: a text, an integer, or an empty list where
nothing was given. For an option that need not be there, nothing given counts as not there.
-/
namespace ModelGateway.CommandLine

inductive RequestKind where
  | text
  | chat
  | embedding
  | image
  deriving DecidableEq, Repr

namespace RequestKind

def name : RequestKind → String
  | text => "text"
  | chat => "chat"
  | embedding => "embedding"
  | image => "image"

def all : List RequestKind := [text, chat, embedding, image]

def ofName? (s : String) : Option RequestKind := all.find? fun k => k.name == s

end RequestKind

inductive Command where
  | models
  | encode (model : String) (kind : RequestKind) (input width height : Value)
      (settings : Option String)
  | generate (model : Option String) (prompt : Value) (settings : Option String) (stream : Bool)
  | chat (model system : Option String) (messages : List Value) (settings : Option String)
      (stream : Bool)
  | embed (model : Option String) (texts : List String)
  | image (model : Option String) (description width height : Value)
      (settings output : Option String)
  deriving Repr

structure Arguments where
  /-- The configuration file that was named. -/
  config : Option String
  command : Command
  deriving Repr

def helpOptions : List OptionSpec := [⟨"-h", .help⟩, ⟨"--help", .help⟩]

def textOption (name : String) : OptionSpec := ⟨name, .value fun _ => true⟩

def intOption (name : String) : OptionSpec := ⟨name, .value fun s => (Numeral.int? s).isSome⟩

def topGrammar : Grammar := ⟨helpOptions ++ [textOption "--config"], .command⟩

def modelsGrammar : Grammar := ⟨helpOptions, .none⟩

def encodeGrammar : Grammar :=
  ⟨helpOptions ++ [textOption "--model",
    ⟨"--kind", .value fun s => (RequestKind.ofName? s).isSome⟩, textOption "--input",
    intOption "--width", intOption "--height", textOption "--settings"], .none⟩

def generateGrammar : Grammar :=
  ⟨helpOptions ++ [textOption "--model", textOption "--prompt", textOption "--settings",
    ⟨"--stream", .flag⟩], .none⟩

def chatGrammar : Grammar :=
  ⟨helpOptions ++ [textOption "--model", textOption "--system", textOption "--message",
    textOption "--settings", ⟨"--stream", .flag⟩], .none⟩

def embedGrammar : Grammar := ⟨helpOptions ++ [textOption "--model"], .words⟩

def imageGrammar : Grammar :=
  ⟨helpOptions ++ [textOption "--model", textOption "--description", intOption "--width",
    intOption "--height", textOption "--settings", textOption "--output"], .none⟩

/-- A text for a request; nothing is an empty list. -/
def Given.value : Given → Value
  | text s => .text s
  | nothing => .list []

/-- What an option that has to be there has been given last. -/
def Collected.required (c : Collected) (name : String) : Except Stop Given :=
  match c.last? name with
  | some given => .ok given
  | none => .error .misuse

/-- The number that an option has been given last; nothing is an empty list. -/
def Collected.intOr (c : Collected) (name : String) (default : Int) : Value :=
  match c.last? name with
  | some (.text s) => .int ((Numeral.int? s).getD default)
  | some .nothing => .list []
  | none => .int default

/-- The kind of request: the one that is named, `text` if the option is not there, and `image` if
the option is there but names none. -/
def Collected.kind (c : Collected) : RequestKind :=
  match c.last? "--kind" with
  | some (.text s) => (RequestKind.ofName? s).getD .text
  | some .nothing => .image
  | none => .text

/-- What is returned if everything that was given has been taken. -/
def Collected.settle (c : Collected) (command : Command) : Except Stop Command :=
  if c.surplus then .error .misuse else .ok command

def parseModels (args : List String) : Except Stop Command := do
  (← modelsGrammar.parse args).settle .models

def parseEncode (args : List String) : Except Stop Command := do
  let c ← encodeGrammar.parse args
  c.settle (.encode ((← c.required "--model").text?.getD "") c.kind (← c.required "--input").value
    (c.intOr "--width" 512) (c.intOr "--height" 512) (c.text? "--settings"))

def parseGenerate (args : List String) : Except Stop Command := do
  let c ← generateGrammar.parse args
  c.settle (.generate (c.text? "--model") (← c.required "--prompt").value (c.text? "--settings")
    (c.flags.contains "--stream"))

def parseChat (args : List String) : Except Stop Command := do
  let c ← chatGrammar.parse args
  let _ ← c.required "--message"
  c.settle (.chat (c.text? "--model") (c.text? "--system") ((c.all "--message").map Given.value)
    (c.text? "--settings") (c.flags.contains "--stream"))

def parseEmbed (args : List String) : Except Stop Command := do
  let c ← embedGrammar.parse args
  match c.words with
  | some (word :: words) => c.settle (.embed (c.text? "--model") (word :: words))
  | _ => .error .misuse

def parseImage (args : List String) : Except Stop Command := do
  let c ← imageGrammar.parse args
  c.settle (.image (c.text? "--model") (← c.required "--description").value
    (c.intOr "--width" 1024) (c.intOr "--height" 1024) (c.text? "--settings") (c.text? "--output"))

def subparser? (name : String) : Option (List String → Except Stop Command) :=
  [("models", parseModels), ("encode", parseEncode), ("generate", parseGenerate),
   ("chat", parseChat), ("embed", parseEmbed), ("image", parseImage)].lookup name

def parse (args : List String) : Except Stop Arguments := do
  let c ← topGrammar.parse args
  match c.command with
  | some (name :: rest) =>
    match subparser? name with
    | some parser =>
      let command ← parser rest
      if c.surplus then .error .misuse else return ⟨c.text? "--config", command⟩
    | none => .error .misuse
  | _ => .error .misuse

end ModelGateway.CommandLine
