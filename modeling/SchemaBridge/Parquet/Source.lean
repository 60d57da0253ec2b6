import SchemaBridge.Parquet.Node

/-!
# Parquet nodes as source nodes

A logical type takes precedence over a converted type: where both are present they say the same, and
some logical types have no converted type.
-/

namespace SchemaBridge.Parquet

open Source (Refinement)

/-- A decimal attribute, if it is set. -/
def attribute? (value : Int32) : Option UInt32 :=
  if 0 ≤ value then some (UInt32.ofNat value.toNatClampNeg) else none

/-- The width of an integer; a width that makes no sense is zero. -/
def widthOf (bitWidth : Int8) : UInt8 :=
  if 0 ≤ bitWidth then UInt8.ofNat bitWidth.toNatClampNeg else 0

/-- A physical type of that length. A length below zero counts as zero. -/
def Physical.toSource (length : Int32) : Physical → Source.Physical
  | .boolean => .boolean
  | .int32 => .int32
  | .int64 => .int64
  | .int96 => .int96
  | .float => .float
  | .double => .double
  | .byteArray => .byteArray
  | .fixedLenByteArray => .fixedLenByteArray (UInt32.ofNat length.toNatClampNeg)

def Logical.toRefinement : Logical → Refinement
  | .string => .utf8
  | .map => .map
  | .list => .list
  | .enumeration => .enumeration
  | .decimal scale precision => .decimal (attribute? precision) (attribute? scale)
  | .date => .date
  | .time _ .millis => .timeMillis
  | .time _ .micros => .timeMicros
  | .time _ .nanos => .timeNanos
  | .timestamp _ .millis => .timestampMillis
  | .timestamp _ .micros => .timestampMicros
  | .timestamp _ .nanos => .timestampNanos
  | .integer bitWidth signed => .integer (widthOf bitWidth) signed
  | .unknown => .unknown "UNKNOWN"
  | .json => .json
  | .bson => .bson
  | .uuid => .uuid
  | .float16 => .float16

/-- A converted type on a node with these decimal attributes. -/
def Converted.toRefinement? (precision scale : Int32) : Converted → Option Refinement
  | .none => Option.none
  | .utf8 => some .utf8
  | .map => some .map
  | .mapKeyValue => some .mapKeyValue
  | .list => some .list
  | .enumeration => some .enumeration
  | .decimal => some (.decimal (attribute? precision) (attribute? scale))
  | .date => some .date
  | .timeMillis => some .timeMillis
  | .timeMicros => some .timeMicros
  | .timestampMillis => some .timestampMillis
  | .timestampMicros => some .timestampMicros
  | .uint8 => some (.integer 8 false)
  | .uint16 => some (.integer 16 false)
  | .uint32 => some (.integer 32 false)
  | .uint64 => some (.integer 64 false)
  | .int8 => some (.integer 8 true)
  | .int16 => some (.integer 16 true)
  | .int32 => some (.integer 32 true)
  | .int64 => some (.integer 64 true)
  | .json => some .json
  | .bson => some .bson
  | .interval => some .interval

/-- The annotation of a node with these decimal attributes. -/
def Info.refinement? (info : Info) (precision scale : Int32) : Option Refinement :=
  match info.logical with
  | some l => some l.toRefinement
  | none => info.converted.toRefinement? precision scale

mutual

/-- A Parquet node as a source node. A node without a repetition, such as a root, is required, and a
group has no decimal attributes. -/
def Node.toSource : Node → Source.Node
  | .primitive info storage =>
    .primitive info.name (info.repetition.getD .required)
      (storage.physical.toSource storage.length)
      (info.refinement? storage.precision storage.scale)
  | .group info fields =>
    .group info.name (info.repetition.getD .required) (info.refinement? (-1) (-1))
      (toSources fields)

def toSources : List Node → List Source.Node
  | [] => []
  | node :: nodes => node.toSource :: toSources nodes

end

end SchemaBridge.Parquet
