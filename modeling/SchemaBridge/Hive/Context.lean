import SchemaBridge.DataType.Record

/-!
# Contexts of Hive types

A `Context` is a type text with one hole where a type is being read: the constructs that are open around
it, innermost first. Two kinds of text are read, and the index `Goal` tells them apart: one type, or the
members of a record with or without `struct<` and `>` around them.
-/

namespace SchemaBridge.Hive

/-- How many types may enclose a type. -/
def maxNesting : Nat := 128

/-- The name and the type of a member of a record. -/
abbrev MemberType := String × DataType

/-- What a text is read as. -/
inductive Goal where
  | type
  | members
deriving DecidableEq, Repr

/-- What reading yields. -/
abbrev Goal.Result : Goal → Type
  | .type => DataType
  | .members => List MemberType

mutual

/-- The constructs that enclose a type, innermost first. -/
inductive Context : Goal → Type where
  | whole : Context .type
  | element {g : Goal} (outer : Context g) : Context g
  | key {g : Goal} (outer : Context g) : Context g
  | value {g : Goal} (key : DataType) (outer : Context g) : Context g
  | member {g : Goal} (list : ListContext g) (done : List MemberType) (name : String) : Context g

/-- The place of a list of members. -/
inductive ListContext : Goal → Type where
  /-- The members of a record type. -/
  | nested {g : Goal} (outer : Context g) : ListContext g
  /-- The whole text, in its brackets. -/
  | wrapped : ListContext .members
  /-- The whole text, without brackets. -/
  | bare : ListContext .members

end

mutual

/-- The number of types around the hole. -/
def Context.depth {g : Goal} : Context g → Nat
  | .whole => 0
  | .element outer => outer.depth + 1
  | .key outer => outer.depth + 1
  | .value _ outer => outer.depth + 1
  | .member list _ _ => list.depth

def ListContext.depth {g : Goal} : ListContext g → Nat
  | .nested outer => outer.depth + 1
  | .wrapped => 1
  | .bare => 0

end

mutual

/-- Blames the members around the hole: their names become the path of the error. -/
def Context.blame {g : Goal} (e : SchemaError) : Context g → SchemaError
  | .whole => e
  | .element outer => outer.blame e
  | .key outer => outer.blame e
  | .value _ outer => outer.blame e
  | .member list _ name => list.blame (e.within name)

def ListContext.blame {g : Goal} (e : SchemaError) : ListContext g → SchemaError
  | .nested outer => outer.blame e
  | .wrapped => e
  | .bare => e

end

end SchemaBridge.Hive
