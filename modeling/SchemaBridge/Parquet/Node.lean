import SchemaBridge.Source.Node

/-!
# Parquet schema nodes

The vocabulary of a Parquet schema: physical types, the older converted types, the newer logical
types, and the nodes that carry them. `Logical.converted` gives the converted type that says the
same as a logical type, if there is one.
-/

namespace SchemaBridge.Parquet

open Source (Repetition)

/-- How values are stored. -/
inductive Physical where
  | boolean
  | int32
  | int64
  | int96
  | float
  | double
  | byteArray
  | fixedLenByteArray
deriving DecidableEq, Repr

/-- The older annotations. -/
inductive Converted where
  | none
  | utf8
  | map
  | mapKeyValue
  | list
  | enumeration
  | decimal
  | date
  | timeMillis
  | timeMicros
  | timestampMillis
  | timestampMicros
  | uint8
  | uint16
  | uint32
  | uint64
  | int8
  | int16
  | int32
  | int64
  | json
  | bson
  | interval
deriving DecidableEq, Repr

/-- The resolution of a time. -/
inductive TimeUnit where
  | millis
  | micros
  | nanos
deriving DecidableEq, Repr

/-- The newer annotations, with their parameters. -/
inductive Logical where
  | string
  | map
  | list
  | enumeration
  | decimal (scale precision : Int32)
  | date
  | time (utc : Bool) (unit : TimeUnit)
  | timestamp (utc : Bool) (unit : TimeUnit)
  | integer (bitWidth : Int8) (signed : Bool)
  | unknown
  | json
  | bson
  | uuid
  | float16
deriving DecidableEq, Repr

/-- What primitives and groups have in common. -/
structure Info where
  name : String
  repetition : Option Repetition := .none
  logical : Option Logical := .none
  converted : Converted := .none
deriving DecidableEq, Repr

/-- The storage of a primitive; attributes that are not set are -1. -/
structure Storage where
  physical : Physical
  length : Int32 := -1
  precision : Int32 := -1
  scale : Int32 := -1
deriving DecidableEq, Repr

/-- A node of a schema. -/
inductive Node where
  | primitive (info : Info) (storage : Storage)
  | group (info : Info) (fields : List Node)
deriving Repr

def Physical.word : Physical → String
  | .boolean => "BOOLEAN"
  | .int32 => "INT32"
  | .int64 => "INT64"
  | .int96 => "INT96"
  | .float => "FLOAT"
  | .double => "DOUBLE"
  | .byteArray => "BYTE_ARRAY"
  | .fixedLenByteArray => "FIXED_LEN_BYTE_ARRAY"

def Physical.ofWord? : String → Option Physical
  | "BOOLEAN" => some .boolean
  | "INT32" => some .int32
  | "INT64" => some .int64
  | "INT96" => some .int96
  | "FLOAT" => some .float
  | "DOUBLE" => some .double
  | "BYTE_ARRAY" => some .byteArray
  | "BINARY" => some .byteArray
  | "FIXED_LEN_BYTE_ARRAY" => some .fixedLenByteArray
  | _ => none

@[simp] theorem Physical.ofWord?_word (p : Physical) : Physical.ofWord? p.word = some p := by
  cases p <;> rfl

def repetitionOfWord? : String → Option Repetition
  | "REQUIRED" => some .required
  | "OPTIONAL" => some .optional
  | "REPEATED" => some .repeated
  | _ => none

def Converted.word : Converted → String
  | .none => "NONE"
  | .utf8 => "UTF8"
  | .map => "MAP"
  | .mapKeyValue => "MAP_KEY_VALUE"
  | .list => "LIST"
  | .enumeration => "ENUM"
  | .decimal => "DECIMAL"
  | .date => "DATE"
  | .timeMillis => "TIME_MILLIS"
  | .timeMicros => "TIME_MICROS"
  | .timestampMillis => "TIMESTAMP_MILLIS"
  | .timestampMicros => "TIMESTAMP_MICROS"
  | .uint8 => "UINT_8"
  | .uint16 => "UINT_16"
  | .uint32 => "UINT_32"
  | .uint64 => "UINT_64"
  | .int8 => "INT_8"
  | .int16 => "INT_16"
  | .int32 => "INT_32"
  | .int64 => "INT_64"
  | .json => "JSON"
  | .bson => "BSON"
  | .interval => "INTERVAL"

/-- Every converted type, in the order of the format. -/
def Converted.all : List Converted :=
  [.none, .utf8, .map, .mapKeyValue, .list, .enumeration, .decimal, .date, .timeMillis, .timeMicros,
    .timestampMillis, .timestampMicros, .uint8, .uint16, .uint32, .uint64, .int8, .int16, .int32,
    .int64, .json, .bson, .interval]

def Converted.ofWord? (word : String) : Option Converted :=
  Converted.all.find? (·.word == word)

@[simp] theorem Converted.ofWord?_word (c : Converted) : Converted.ofWord? c.word = some c := by
  cases c <;> decide

/-- The logical type that a word names. Parameters take placeholders, which the text may set. -/
def Logical.ofWord? : String → Option Logical
  | "INTEGER" => some (.integer 8 false)
  | "MAP" => some .map
  | "LIST" => some .list
  | "ENUM" => some .enumeration
  | "DECIMAL" => some (.decimal (-1) (-1))
  | "DATE" => some .date
  | "TIME" => some (.time false .millis)
  | "TIMESTAMP" => some (.timestamp false .millis)
  | "STRING" => some .string
  | "JSON" => some .json
  | "BSON" => some .bson
  | "UUID" => some .uuid
  | "UNKNOWN" => some .unknown
  | "FLOAT16" => some .float16
  | _ => none

def TimeUnit.ofWord? : String → Option TimeUnit
  | "MILLIS" => some .millis
  | "MICROS" => some .micros
  | "NANOS" => some .nanos
  | _ => none

/-- The converted type of an integer. -/
def convertedInteger (bitWidth : Int8) (signed : Bool) : Converted :=
  if bitWidth = 8 then (if signed then .int8 else .uint8)
  else if bitWidth = 16 then (if signed then .int16 else .uint16)
  else if bitWidth = 32 then (if signed then .int32 else .uint32)
  else if bitWidth = 64 then (if signed then .int64 else .uint64)
  else .none

/-- The converted type that says the same as a logical type. -/
def Logical.converted : Logical → Converted
  | .string => .utf8
  | .map => .map
  | .list => .list
  | .enumeration => .enumeration
  | .decimal .. => .decimal
  | .date => .date
  | .time _ .millis => .timeMillis
  | .time _ .micros => .timeMicros
  | .time _ .nanos => .none
  | .timestamp _ .millis => .timestampMillis
  | .timestamp _ .micros => .timestampMicros
  | .timestamp _ .nanos => .none
  | .integer bitWidth signed => convertedInteger bitWidth signed
  | .unknown => .none
  | .json => .json
  | .bson => .bson
  | .uuid => .none
  | .float16 => .none

def boolText (b : Bool) : String := if b then "true" else "false"

def TimeUnit.text : TimeUnit → String
  | .millis => "MILLIS(MilliSeconds)"
  | .micros => "MICROS(MicroSeconds)"
  | .nanos => "NANOS(NanoSeconds)"

/-- The parameters of a time in a message. -/
def timeText (utc : Bool) (unit : TimeUnit) : String :=
  " \x7b is_adjusted_to_u_t_c: " ++ boolText utc ++ ", unit: " ++ unit.text ++ " \x7d"

/-- A logical type in a message. -/
def Logical.text : Logical → String
  | .string => "String"
  | .map => "Map"
  | .list => "List"
  | .enumeration => "Enum"
  | .decimal scale precision =>
    "Decimal \x7b scale: " ++ toString scale ++ ", precision: " ++ toString precision ++ " \x7d"
  | .date => "Date"
  | .time utc unit => "Time" ++ timeText utc unit
  | .timestamp utc unit => "Timestamp" ++ timeText utc unit
  | .integer bitWidth signed =>
    "Integer \x7b bit_width: " ++ toString bitWidth ++ ", is_signed: " ++ boolText signed ++ " \x7d"
  | .unknown => "Unknown"
  | .json => "Json"
  | .bson => "Bson"
  | .uuid => "Uuid"
  | .float16 => "Float16"

end SchemaBridge.Parquet
