import SchemaBridge.Hive.Reader
import SchemaBridge.Hive.TypeText

/-!
# Hive columns

A table lists its columns by name and type text. Unlike the text of a record type, a column keeps
whether its values may be missing. `Hive.columns` lists the columns of a record and
`Hive.recordOfColumns` reads them back.
-/

namespace SchemaBridge.Hive

/-- A column of a table definition. -/
structure Column where
  name : String
  type : String
  comment : Option String := none
  nullable : Bool
deriving DecidableEq, Repr

/-- The column of a field. -/
def Column.ofField (policies : HivePolicies) (field : Field) : Except SchemaError Column := do
  let text ← within field.name (typeText policies field.type)
  return { name := field.name, type := text, nullable := field.nullable }

/-- The field that a column describes. -/
def Column.toField (column : Column) : Except SchemaError Field := do
  let type ← within column.name (readType column.type)
  return ⟨column.name, type, column.nullable⟩

/-- The columns of a record's fields, in their order. -/
def columns (policies : HivePolicies) (fields : List Field) : Except SchemaError (List Column) := do
  checkNames (fields.map Member.name)
  fields.mapM (Column.ofField policies)

/-- The record that columns describe. -/
def recordOfColumns (columns : List Column) : Except SchemaError Record := do
  let fields ← columns.mapM Column.toField
  Record.ofFields fields

end SchemaBridge.Hive
