import SchemaBridge.DataType.Basic

/-!
# Hive keywords

The words that start a Hive type. Keywords are compared without regard to ASCII case.
-/

namespace SchemaBridge.Hive

/-- The constructors that enclose other types in angle brackets. -/
inductive Composite where
  | array
  | map
  | struct
deriving DecidableEq, Repr

/-- The text types with a size. -/
inductive SizedText where
  | char
  | varchar
deriving DecidableEq, Repr

/-- What the first word of a type announces. -/
inductive Keyword where
  /-- A type of one word. -/
  | plain (t : DataType)
  /-- A 64-bit float, also written with a second word. -/
  | double
  /-- A timestamp; the variant with a time zone is not supported. -/
  | timestamp
  | decimal
  | sized (kind : SizedText)
  | composite (kind : Composite)
  /-- A type of the dialect that has no counterpart. -/
  | unsupported
deriving Repr

/-- The keyword that a lower-case word is. -/
def Keyword.ofLower? : String → Option Keyword
  | "tinyint" => some (.plain .int8)
  | "smallint" => some (.plain .int16)
  | "int" => some (.plain .int32)
  | "integer" => some (.plain .int32)
  | "bigint" => some (.plain .int64)
  | "float" => some (.plain .float32)
  | "double" => some .double
  | "boolean" => some (.plain .boolean)
  | "string" => some (.plain .string)
  | "binary" => some (.plain .binary)
  | "date" => some (.plain .date)
  | "timestamp" => some .timestamp
  | "decimal" => some .decimal
  | "numeric" => some .decimal
  | "char" => some (.sized .char)
  | "varchar" => some (.sized .varchar)
  | "array" => some (.composite .array)
  | "map" => some (.composite .map)
  | "struct" => some (.composite .struct)
  | "uniontype" => some .unsupported
  | "void" => some .unsupported
  | "interval" => some .unsupported
  | "interval_year_month" => some .unsupported
  | "interval_day_time" => some .unsupported
  | _ => none

end SchemaBridge.Hive
