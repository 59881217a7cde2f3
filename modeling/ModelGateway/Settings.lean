import ModelGateway.Conversion

/-!
# Execution settings

Settings arrive as a loosely typed object. A schema lists the fields an encoder wants, each with
its wire key, its default and the kind of value it takes; reading a schema replaces what is
missing or of another kind by the default, without an error.
-/
namespace ModelGateway

abbrev Settings := Option Object

inductive Kind where
  | float
  | int
  | text
  | bool
  | textList
  | list
  | object
  /-- Anything but null. -/
  | any
  deriving DecidableEq, Repr

namespace Kind

def name : Kind → String
  | float => "float"
  | int => "int"
  | text => "str"
  | bool => "bool"
  | textList => "str_list"
  | list => "list"
  | object => "dict"
  | any => "any"

def all : List Kind := [float, int, text, bool, textList, list, object, any]

/-- The kind of a name; unknown names stand for any value. -/
def ofName (s : String) : Kind := (all.find? fun k => k.name == s).getD any

/-- The kind that a default value suggests. -/
def ofDefault : Value → Kind
  | .bool _ => bool
  | .int _ => int
  | .float _ => float
  | .text _ => text
  | .object _ => object
  | .list items => if items.all Value.isText then textList else list
  | .tuple items => if items.all Value.isText then textList else list
  | .null => any
  | .message .. => any

/-- Whether a value is of a kind. Booleans are no numbers, and every integer may stand for a
double. -/
def accepts : Kind → Value → Bool
  | float, .int _ => true
  | float, .float _ => true
  | int, .int _ => true
  | text, .text _ => true
  | bool, .bool _ => true
  | textList, .list items => items.all Value.isText
  | textList, .tuple items => items.all Value.isText
  | list, .list _ => true
  | list, .tuple _ => true
  | object, .object _ => true
  | any, v => !v.isNull
  | _, _ => false

/-- An accepted value as it is handed on: doubles are widened from integers, and tuples become
lists. -/
def convert : Kind → Value → Except Conversion Value
  | float, v => v.toFloat.map .float
  | _, .tuple items => .ok (.list items)
  | _, v => .ok v

end Kind

/-- The value of a setting: the one given under its key if it is of the wanted kind, otherwise the
default. -/
def Settings.resolve (settings : Settings) (key : String) (default : Value) (kind : Kind) :
    Except Conversion Value :=
  match settings.bind fun o => Object.value? o key with
  | some v => if kind.accepts v then kind.convert v else .ok default
  | none => .ok default

/-- A field of a settings record. A field without a key keeps its default. -/
structure Field where
  name : String
  key : String
  default : Value
  kind : Kind
  deriving Repr

def Field.read (field : Field) (settings : Settings) : Except Conversion Value :=
  if field.key = "" then .ok field.default
  else settings.resolve field.key field.default field.kind

/-- A field of the kind that its default suggests. -/
def Field.inferred (name key : String) (default : Value) : Field :=
  ⟨name, key, default, .ofDefault default⟩

/-- A field that is unset unless a value of its kind is given. -/
def Field.unset (name key : String) (kind : Kind) : Field := ⟨name, key, .null, kind⟩

abbrev Schema := List Field

/-- Reads all fields of a schema; the record maps field names to values. -/
def Schema.read (schema : Schema) (settings : Settings) : Except Conversion Object :=
  match schema with
  | [] => .ok []
  | field :: rest => do
    let v ← field.read settings
    let record ← Schema.read rest settings
    return (field.name, v) :: record

end ModelGateway
