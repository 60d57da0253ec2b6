import SchemaBridge.Parquet.Draft
import SchemaBridge.Parquet.Message
import SchemaBridge.Parquet.Source
import SchemaBridge.Source.Import

/-!
# Data types of Parquet schemas

Parquet schemas are read by way of source nodes.
-/

namespace SchemaBridge.Parquet

/-- The source node that a message text describes. -/
def sourceOfMessage (text : String) : Except SchemaError Source.Node :=
  match readMessage text with
  | .ok root => .ok root.toSource
  | .error fault => .error fault.error

/-- The source node that a draft describes. -/
def sourceOfDraft (draft : Draft) : Except SchemaError Source.Node :=
  match draft.build with
  | .ok node => .ok node.toSource
  | .error fault => .error fault.error

/-- The type of a Parquet node, its own repetition aside. -/
def typeOf (policies : SourcePolicies) (node : Node) : Except SchemaError DataType :=
  Source.typeOf policies node.toSource

/-- The record that the root of a schema describes. -/
def recordOf (policies : SourcePolicies) (root : Node) : Except SchemaError Record :=
  Source.recordOf policies root.toSource

/-- The record that a message text describes. -/
def recordOfMessage (policies : SourcePolicies) (text : String) : Except SchemaError Record :=
  (sourceOfMessage text).bind (Source.recordOf policies)

end SchemaBridge.Parquet
