/-!
# Source schema trees

A source schema is a tree of primitive columns and groups. Every node has a name and a repetition and
may carry an annotation that refines the meaning of its storage.
-/

namespace SchemaBridge.Source

/-- How the values of a primitive column are stored. -/
inductive Physical where
  | boolean
  | int32
  | int64
  /-- 96-bit integers, by convention timestamps. -/
  | int96
  | float
  | double
  /-- Byte sequences of any length. -/
  | byteArray
  /-- Byte sequences of `length` bytes. -/
  | fixedLenByteArray (length : UInt32)
deriving DecidableEq, Repr

/-- What refines the meaning of a column or a group. -/
inductive Refinement where
  | utf8
  | enumeration
  | json
  | bson
  | uuid
  /-- A decimal number; a missing attribute stays missing here. -/
  | decimal (precision scale : Option UInt32)
  | date
  | timeMillis
  | timeMicros
  | timeNanos
  | timestampMillis
  | timestampMicros
  | timestampNanos
  | integer (bitWidth : UInt8) (signed : Bool)
  | float16
  | interval
  | list
  | map
  | mapKeyValue
  /-- An annotation known by its name only. -/
  | unknown (label : String)
deriving DecidableEq, Repr

/-- How often a node occurs in its parent. -/
inductive Repetition where
  | required
  | optional
  | repeated
deriving DecidableEq, Repr

/-- A node of a source schema. -/
inductive Node where
  | primitive (name : String) (repetition : Repetition) (physical : Physical)
      (refinement : Option Refinement)
  | group (name : String) (repetition : Repetition) (refinement : Option Refinement)
      (fields : List Node)
deriving Repr

/-- The name of a storage kind. -/
def Physical.label : Physical → String
  | .boolean => "BOOLEAN"
  | .int32 => "INT32"
  | .int64 => "INT64"
  | .int96 => "INT96"
  | .float => "FLOAT"
  | .double => "DOUBLE"
  | .byteArray => "BYTE_ARRAY"
  | .fixedLenByteArray length => "FIXED_LEN_BYTE_ARRAY(" ++ toString length ++ ")"

/-- A decimal attribute in a label. -/
def attributeLabel : Option UInt32 → String
  | some n => toString n
  | none => "?"

/-- The name of an annotation. -/
def Refinement.label : Refinement → String
  | .utf8 => "UTF8"
  | .enumeration => "ENUM"
  | .json => "JSON"
  | .bson => "BSON"
  | .uuid => "UUID"
  | .decimal precision scale =>
    "DECIMAL(" ++ attributeLabel precision ++ "," ++ attributeLabel scale ++ ")"
  | .date => "DATE"
  | .timeMillis => "TIME_MILLIS"
  | .timeMicros => "TIME_MICROS"
  | .timeNanos => "TIME(NANOS)"
  | .timestampMillis => "TIMESTAMP_MILLIS"
  | .timestampMicros => "TIMESTAMP_MICROS"
  | .timestampNanos => "TIMESTAMP(NANOS)"
  | .integer bitWidth signed => (if signed then "INT_" else "UINT_") ++ toString bitWidth
  | .float16 => "FLOAT16"
  | .interval => "INTERVAL"
  | .list => "LIST"
  | .map => "MAP"
  | .mapKeyValue => "MAP_KEY_VALUE"
  | .unknown label => label

/-- The name of an annotation that may be missing. -/
def refinementLabel : Option Refinement → String
  | some a => a.label
  | none => "NONE"

namespace Node

def name : Node → String
  | primitive name .. => name
  | group name .. => name

def repetition : Node → Repetition
  | primitive _ repetition .. => repetition
  | group _ repetition .. => repetition

def refinement : Node → Option Refinement
  | primitive _ _ _ refinement => refinement
  | group _ _ refinement _ => refinement

def isGroup : Node → Bool
  | primitive .. => false
  | group .. => true

/-- The node with that annotation. -/
def refine (a : Refinement) : Node → Node
  | primitive name repetition physical _ => primitive name repetition physical (some a)
  | group name repetition _ fields => group name repetition (some a) fields

/-- The node with that repetition. -/
def repeating (r : Repetition) : Node → Node
  | primitive name _ physical refinement => primitive name r physical refinement
  | group name _ refinement fields => group name r refinement fields

end Node

end SchemaBridge.Source
