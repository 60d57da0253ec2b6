import SchemaBridge.Toml.Basic

/-!
# Assembling TOML documents

A document is a sequence of table headers and assignments. `Tree` is a table under construction: it
remembers how each table came about, because a table can be opened by a header once, a table made by
a dotted key takes no header, and an array of tables grows by its own headers only. Whatever is
defined twice makes the document fail.
-/

namespace SchemaBridge.Toml

/-- How a table came about. -/
inductive Origin where
  /-- By the header of a table inside it. -/
  | implied
  /-- By a header of its own. -/
  | header
  /-- By a dotted key. -/
  | dotted
deriving DecidableEq, Repr

/-- A value under construction. -/
inductive Tree where
  | leaf (value : Toml)
  | table (origin : Origin) (members : List (String × Tree))
  /-- An array of tables, last one first. -/
  | tables (items : List (List (String × Tree)))

/-- The members of a table under construction. -/
abbrev Members := List (String × Tree)

/-- A line of a document. -/
inductive Statement where
  | table (path : List String)
  | arrayTable (path : List String)
  | assign (path : List String) (value : Toml)

/-- Replaces the member of that name, or adds it at the end. -/
def modify (name : String) (f : Option Tree → Option Tree) : Members → Option Members
  | [] => (f none).map fun t => [(name, t)]
  | (key, t) :: ms =>
    if key = name then (f (some t)).map fun t => (key, t) :: ms
    else (modify name f ms).map ((key, t) :: ·)

/-- Changes the members of a table on the way to a header. -/
def enter (g : Members → Option Members) : Option Tree → Option Tree
  | none => (g []).map (.table .implied)
  | some (.table .dotted _) => none
  | some (.table origin ms) => (g ms).map (.table origin)
  | some (.tables (last :: rest)) => (g last).map fun ms => .tables (ms :: rest)
  | some (.tables []) => none
  | some (.leaf _) => none

/-- Changes the members of the table at the end of a path of headers. -/
def descend (g : Members → Option Members) : List String → Members → Option Members
  | [], ms => g ms
  | name :: path, ms => modify name (enter (descend g path)) ms

/-- Opens a table by a header of its own. -/
def openTable : Option Tree → Option Tree
  | none => some (.table .header [])
  | some (.table .implied ms) => some (.table .header ms)
  | _ => none

/-- Adds a table to an array of tables. -/
def addTable : Option Tree → Option Tree
  | none => some (.tables [[]])
  | some (.tables items) => some (.tables ([] :: items))
  | _ => none

/-- Sets a value that has none yet. -/
def setLeaf (value : Toml) : Option Tree → Option Tree
  | none => some (.leaf value)
  | some _ => none

/-- Sets the value at the end of a dotted key. -/
def setAt (value : Toml) : List String → Members → Option Members
  | [], _ => none
  | [name], ms => modify name (setLeaf value) ms
  | name :: path, ms =>
    modify name (fun
      | none => (setAt value path []).map (.table .dotted)
      | some (.table .dotted inner) => (setAt value path inner).map (.table .dotted)
      | _ => none) ms

/-- Changes the last member of a path. -/
def atPath (f : Option Tree → Option Tree) (path : List String) (ms : Members) : Option Members :=
  match path.getLast? with
  | some name => descend (modify name f) path.dropLast ms
  | none => none

/-- Adds one line to a document; `current` is the path of the table that is open. -/
def Statement.add : Statement → List String × Members → Option (List String × Members)
  | .table path, (_, ms) => (atPath openTable path ms).map (path, ·)
  | .arrayTable path, (_, ms) => (atPath addTable path ms).map (path, ·)
  | .assign path value, (current, ms) => (descend (setAt value path) current ms).map (current, ·)

mutual

/-- A finished value. -/
def Tree.value : Tree → Toml
  | .leaf value => value
  | .table _ members => .table (membersValue members)
  | .tables items => .array (itemsValue items).reverse

def membersValue : List (String × Tree) → List (String × Toml)
  | [] => []
  | (name, t) :: ms => (name, t.value) :: membersValue ms

def itemsValue : List (List (String × Tree)) → List Toml
  | [] => []
  | ms :: items => .table (membersValue ms) :: itemsValue items

end

/-- The table that the lines of a document describe. -/
def ofStatements? (statements : List Statement) : Option Toml := do
  let (_, ms) ← statements.foldlM (fun state statement => statement.add state) ([], [])
  return .table (membersValue ms)

/-- The members that the pairs of an inline table describe. -/
def inlineTable? (pairs : List (List String × Toml)) : Option Toml := do
  let ms ← pairs.foldlM (fun ms (path, value) => setAt value path ms) []
  return .table (membersValue ms)

end SchemaBridge.Toml
