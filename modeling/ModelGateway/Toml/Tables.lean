import ModelGateway.Toml.Moment
import ModelGateway.Value.Display

/-!
# The tables of a TOML document

A document is a tree of tables that grows statement by statement. Besides the tree it is recorded
which tables a header may no longer open and which values are complete and take no more keys.
-/
namespace ModelGateway.Toml

/-- A part of a document. -/
inductive Node where
  /-- A text, a number or a boolean. -/
  | scalar (v : Value)
  | moment (m : Moment)
  | list (items : List Node)
  | table (members : List (String × Node))
  deriving Repr

abbrev Table := List (String × Node)

namespace Table

def node? (t : Table) (key : String) : Option Node := t.lookup key

/-- Gives a key a node: in its place if the key is there, otherwise at the end. -/
def put : Table → String → Node → Table
  | [], key, n => [(key, n)]
  | (k, m) :: rest, key, n => if k = key then (k, n) :: rest else (k, m) :: put rest key n

end Table

namespace Node

mutual

/-- Whether a moment stands anywhere in a part of a document. -/
def holdsMoment : Node → Bool
  | scalar _ => false
  | moment _ => true
  | list items => holdsMomentIn items
  | table members => holdsMomentUnder members

def holdsMomentIn : List Node → Bool
  | [] => false
  | n :: rest => n.holdsMoment || holdsMomentIn rest

def holdsMomentUnder : Table → Bool
  | [] => false
  | (_, n) :: rest => n.holdsMoment || holdsMomentUnder rest

end

mutual

/-- The form of a part of a document inside a list or a table. -/
def quotedForm : Node → List Char
  | scalar v => v.quotedForm
  | moment m => m.expression.toList
  | list items => '[' :: (Value.separated (quotedItems items) ++ [']'])
  | table members => '{' :: (Value.separated (quotedMembers members) ++ ['}'])

def quotedItems : List Node → List (List Char)
  | [] => []
  | n :: rest => n.quotedForm :: quotedItems rest

def quotedMembers : Table → List (List Char)
  | [] => []
  | (key, n) :: rest => (Text.quoted key ++ ':' :: ' ' :: n.quotedForm) :: quotedMembers rest

end

mutual

/-- The value that a part of a document has in a configuration. A moment counts as its text, and so does
what holds one, since neither is ever looked into. -/
def value : Node → Value
  | scalar v => v
  | moment m => .text m.text
  | list items =>
    if holdsMomentIn items then .text (String.ofList (list items).quotedForm)
    else .list (values items)
  | table members =>
    if holdsMomentUnder members then .text (String.ofList (table members).quotedForm)
    else .object (membersOf members)

def values : List Node → List Value
  | [] => []
  | n :: rest => n.value :: values rest

def membersOf : Table → Object
  | [] => []
  | (key, n) :: rest => (key, n.value) :: membersOf rest

end

end Node

/-- The configuration that a table makes. -/
def Table.toObject (t : Table) : Object := Node.membersOf t

abbrev Path := List String

/-- Why a statement does not fit the document before it. -/
inductive Conflict where
  | alreadyDeclared
  | complete
  | notTable
  | duplicateKey
  deriving DecidableEq, Repr

/-- Changes the table at a path, making tables on the way. When `throughLists` holds, a list of
tables stands for its last table. -/
def changeAt (throughLists : Bool) (change : Table → Option Table) : Path → Table → Option Table
  | [], table => change table
  | key :: rest, table =>
    match Table.node? table key with
    | none => (changeAt throughLists change rest []).map fun t => Table.put table key (.table t)
    | some (.table t) =>
      (changeAt throughLists change rest t).map fun t => Table.put table key (.table t)
    | some (.list items) =>
      match throughLists, items.getLast? with
      | true, some (.table t) =>
        (changeAt throughLists change rest t).map fun t =>
          Table.put table key (.list (items.dropLast ++ [.table t]))
      | _, _ => none
    | some _ => none

/-- Adds a key to a table that does not have it. -/
def addKey (key : String) (n : Node) (table : Table) : Option Table :=
  if (Table.node? table key).isSome then none else some (Table.put table key n)

/-- Adds an empty table to the list under a key, which starts when the key is new. -/
def addToList (key : String) (table : Table) : Option Table :=
  match Table.node? table key with
  | none => some (Table.put table key (.list [.table []]))
  | some (.list items) => some (Table.put table key (.list (items ++ [.table []])))
  | some _ => none

def isContainer : Node → Bool
  | .table _ => true
  | .list _ => true
  | _ => false

structure Document where
  root : Table
  /-- The tables that no header may open again. -/
  declared : List Path
  /-- Tables made by dotted keys since the last header. -/
  pending : List Path
  closed : List Path
  deriving Repr

namespace Document

def empty : Document := ⟨[], [], [], []⟩

def isClosed (d : Document) (path : Path) : Bool := d.closed.any fun p => p.isPrefixOf path

/-- The document before a header. -/
def settle (d : Document) : Document :=
  { d with declared := d.pending ++ d.declared, pending := [] }

/-- Opens the table of a header `[path]`. -/
def openTable (d : Document) (path : Path) : Except Conflict Document :=
  if d.declared.contains path then .error .alreadyDeclared
  else if d.isClosed path then .error .complete
  else match changeAt true some path d.root with
    | some root => .ok { d with root, declared := path :: d.declared }
    | none => .error .notTable

/-- Opens a new table in the list of a header `[[path]]`. What was declared below the path belonged
to the table before and is forgotten. -/
def openListTable (d : Document) (path : Path) : Except Conflict Document :=
  if d.isClosed path then .error .complete
  else match path.getLast? with
    | none => .error .notTable
    | some key =>
      match changeAt true (addToList key) path.dropLast d.root with
      | some root =>
        .ok { d with root
                     declared := path :: d.declared.filter fun p => !path.isPrefixOf p
                     closed := d.closed.filter fun p => !path.isPrefixOf p }
      | none => .error .notTable

/-- The tables between a header and the last part of a key. -/
def between (header path : Path) : List Path :=
  (List.range path.length).tail.map fun n => header ++ path.take n

def assign (d : Document) (header path : Path) (n : Node) : Except Conflict Document :=
  let parents := between header path
  let table := header ++ path.dropLast
  if parents.any d.declared.contains then .error .alreadyDeclared
  else if d.isClosed table then .error .complete
  else match path.getLast? with
    | none => .error .notTable
    | some key =>
      match changeAt true some table d.root with
      | none => .error .notTable
      | some _ =>
        match changeAt true (addKey key n) table d.root with
        | none => .error .duplicateKey
        | some root =>
          .ok { d with root
                       pending := parents ++ d.pending
                       closed := if isContainer n then (header ++ path) :: d.closed else d.closed }

end Document

/-- An inline table that is being read, with the paths of its complete values. -/
structure InlineTable where
  root : Table
  closed : List Path
  deriving Repr

namespace InlineTable

def empty : InlineTable := ⟨[], []⟩

def assign (t : InlineTable) (path : Path) (n : Node) : Except Conflict InlineTable :=
  if t.closed.any fun p => p.isPrefixOf path then .error .complete
  else match path.getLast? with
    | none => .error .notTable
    | some key =>
      match changeAt false (addKey key n) path.dropLast t.root with
      | none => .error .duplicateKey
      | some root => .ok ⟨root, if isContainer n then path :: t.closed else t.closed⟩

end InlineTable
end ModelGateway.Toml
