import SchemaBridge.Hive.Column
import SchemaBridge.Parquet.Import

/-!
# Hive texts of schema descriptions

A description in one of the dialects is read as a data type, and the type is written as Hive text, both
under the default policies. `canonical` brings a Hive type text into its normal form.
-/

namespace SchemaBridge

/-- A description that a data type is read from. -/
inductive Description where
  | hive (text : String)
  | source (node : Source.Node)
  /-- A message text; its root is read as a group, not as the root of a schema. -/
  | parquet (text : String)

namespace Description

/-- The data type that is described. -/
def type : Description → Except SchemaError DataType
  | .hive text => Hive.readType text
  | .source node => Source.typeOf {} node
  | .parquet text => (Parquet.sourceOfMessage text).bind (Source.typeOf {})

/-- The described type as Hive text. -/
def toHive (d : Description) : Except SchemaError String := d.type.bind (Hive.typeText {})

/-- The types of several descriptions; the first one that has none fails the whole. -/
def types (ds : List Description) : Except SchemaError (List DataType) := ds.mapM type

end Description

/-- The normal form of a Hive type text. -/
def Hive.canonical (text : String) : Except SchemaError String := (Description.hive text).toHive

end SchemaBridge
