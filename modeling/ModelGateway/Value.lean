import ModelGateway.Binary64

/-!
# Dynamic values

Settings, request bodies, response bodies and configuration are trees of values whose shape is
known only when they are looked at. Objects keep the order of their keys; tuples are lists that
are told apart from lists when a value is displayed. A chat message may stand where a value is
wanted; it is no object and has no members.
-/
namespace ModelGateway

inductive Value where
  | null
  | bool (b : Bool)
  | int (n : Int)
  | float (x : Binary64)
  | text (s : String)
  | list (items : List Value)
  | tuple (items : List Value)
  | object (members : List (String × Value))
  | message (role : String) (content : Value)
  deriving Repr, Inhabited

def Value.isNull : Value → Bool
  | .null => true
  | _ => false

abbrev Object := List (String × Value)

namespace Object

def value? (o : Object) (key : String) : Option Value := o.lookup key

/-- The value under a key, null when there is none. -/
def value (o : Object) (key : String) : Value := (value? o key).getD .null

def holds (o : Object) (key : String) : Bool := (value? o key).isSome

/-- Gives a key a value: in its place if the key is there, otherwise at the end. -/
def put : Object → String → Value → Object
  | [], key, v => [(key, v)]
  | (k, w) :: rest, key, v => if k = key then (k, v) :: rest else (k, w) :: put rest key v

theorem value?_cons (k : String) (w : Value) (rest : Object) (key : String) :
    value? ((k, w) :: rest) key = if key = k then some w else value? rest key := by
  by_cases h : key = k
  · simp [value?, h]
  · simp [value?, List.lookup_cons, beq_false_of_ne h, h]

theorem value?_put (o : Object) (key key' : String) (v : Value) :
    value? (put o key v) key' = if key' = key then some v else value? o key' := by
  induction o with
  | nil => simp [put, value?_cons]
  | cons m rest ih =>
    obtain ⟨k, w⟩ := m
    by_cases hk : k = key
    · simp only [put, hk, if_true, value?_cons]
      split <;> rfl
    · simp only [put, hk, if_false, value?_cons, ih]
      by_cases h : key' = k
      · simp [h, hk]
      · simp [h]

def putAll (o other : Object) : Object := other.foldl (fun o m => put o m.1 m.2) o

/-- The object that a list of members leaves when they are put in order. -/
def ofMembers (members : List (String × Value)) : Object := putAll [] members

def dropNull (o : Object) : Object := o.filter fun m => !m.2.isNull

end Object

namespace Value

def isObject : Value → Bool
  | object _ => true
  | _ => false

def isText : Value → Bool
  | text _ => true
  | _ => false

/-- Whether a value counts as present: null, false, zeros and everything empty do not. -/
def isTruthy : Value → Bool
  | null => false
  | bool b => b
  | int n => n != 0
  | float x => !x.isZero
  | text s => s != ""
  | list items => !items.isEmpty
  | tuple items => !items.isEmpty
  | object members => !members.isEmpty
  | message .. => true

/-- The value under a key of an object; null for other values and missing keys. -/
def member : Value → String → Value
  | object o, key => Object.value o key
  | _, _ => null

def items? : Value → Option (List Value)
  | list items => some items
  | tuple items => some items
  | _ => none

/-- The name of the kind of a value, as messages give it. -/
def kindName : Value → String
  | null => "NoneType"
  | bool _ => "bool"
  | int _ => "int"
  | float _ => "float"
  | text _ => "str"
  | list _ => "list"
  | tuple _ => "tuple"
  | object _ => "dict"
  | message .. => "ChatMessage"

end Value

def Value.ofText? (s : Option String) : Value := (s.map .text).getD .null

end ModelGateway
