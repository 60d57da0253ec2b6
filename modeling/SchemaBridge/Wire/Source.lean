import SchemaBridge.Source.Node
import SchemaBridge.Wire.Variant

/-!
# Source trees in JSON
-/

namespace SchemaBridge.Wire

open Source

def encodePhysical : Physical → Json
  | .boolean => .string "Boolean"
  | .int32 => .string "Int32"
  | .int64 => .string "Int64"
  | .int96 => .string "Int96"
  | .float => .string "Float"
  | .double => .string "Double"
  | .byteArray => .string "ByteArray"
  | .fixedLenByteArray length =>
    .object [("FixedLenByteArray", .object [("length", .uint32 length)])]

def encodeAttribute : Option UInt32 → Json
  | some n => .uint32 n
  | none => .null

def encodeRefinement : Refinement → Json
  | .utf8 => .string "Utf8"
  | .enumeration => .string "Enum"
  | .json => .string "Json"
  | .bson => .string "Bson"
  | .uuid => .string "Uuid"
  | .decimal precision scale => .object [("Decimal", .object
      [("precision", encodeAttribute precision), ("scale", encodeAttribute scale)])]
  | .date => .string "Date"
  | .timeMillis => .string "TimeMillis"
  | .timeMicros => .string "TimeMicros"
  | .timeNanos => .string "TimeNanos"
  | .timestampMillis => .string "TimestampMillis"
  | .timestampMicros => .string "TimestampMicros"
  | .timestampNanos => .string "TimestampNanos"
  | .integer bitWidth signed => .object [("Integer", .object
      [("bit_width", .nat bitWidth.toNat), ("signed", .bool signed)])]
  | .float16 => .string "Float16"
  | .interval => .string "Interval"
  | .list => .string "List"
  | .map => .string "Map"
  | .mapKeyValue => .string "MapKeyValue"
  | .unknown label => .object [("Unknown", .string label)]

def encodeRepetition : Repetition → Json
  | .required => .string "Required"
  | .optional => .string "Optional"
  | .repeated => .string "Repeated"

/-- An annotation that may be missing. -/
def encodeRefinement? : Option Refinement → Json
  | some a => encodeRefinement a
  | none => .null

mutual

/-- The JSON form of a source node. -/
def encodeNode : Node → Json
  | .primitive name repetition physical refinement => .object [("Primitive", .object
      [("name", .string name), ("repetition", encodeRepetition repetition),
        ("physical", encodePhysical physical), ("annotation", encodeRefinement? refinement)])]
  | .group name repetition refinement fields => .object [("Group", .object
      [("name", .string name), ("repetition", encodeRepetition repetition),
        ("annotation", encodeRefinement? refinement), ("fields", .array (encodeNodes fields))])]

def encodeNodes : List Node → List Json
  | [] => []
  | node :: nodes => encodeNode node :: encodeNodes nodes

end

def decodePhysical (j : Json) : Except Mismatch Physical := do
  let (name, content) ← required (variant? j)
  match name with
  | "Boolean" => unit .boolean content
  | "Int32" => unit .int32 content
  | "Int64" => unit .int64 content
  | "Int96" => unit .int96 content
  | "Float" => unit .float content
  | "Double" => unit .double content
  | "ByteArray" => unit .byteArray content
  | "FixedLenByteArray" =>
    members (fun ms => do return .fixedLenByteArray (← part decodeUInt32 "length" ms)) content
  | _ => .error .shape

def decodeDecimal (ms : List (String × Json)) : Except Mismatch Refinement := do
  let precision ← partD none (decodeNullable decodeUInt32) "precision" ms
  let scale ← partD none (decodeNullable decodeUInt32) "scale" ms
  return .decimal precision scale

def decodeBitWidth (j : Json) : Except Mismatch UInt8 :=
  required ((j.nat? 255).map Nat.toUInt8)

def decodeInteger (ms : List (String × Json)) : Except Mismatch Refinement := do
  let bitWidth ← part decodeBitWidth "bit_width" ms
  let signed ← part decodeBool "signed" ms
  return .integer bitWidth signed

def decodeRefinement (j : Json) : Except Mismatch Refinement := do
  let (name, content) ← required (variant? j)
  match name with
  | "Utf8" => unit .utf8 content
  | "Enum" => unit .enumeration content
  | "Json" => unit .json content
  | "Bson" => unit .bson content
  | "Uuid" => unit .uuid content
  | "Decimal" => members decodeDecimal content
  | "Date" => unit .date content
  | "TimeMillis" => unit .timeMillis content
  | "TimeMicros" => unit .timeMicros content
  | "TimeNanos" => unit .timeNanos content
  | "TimestampMillis" => unit .timestampMillis content
  | "TimestampMicros" => unit .timestampMicros content
  | "TimestampNanos" => unit .timestampNanos content
  | "Integer" => members decodeInteger content
  | "Float16" => unit .float16 content
  | "Interval" => unit .interval content
  | "List" => unit .list content
  | "Map" => unit .map content
  | "MapKeyValue" => unit .mapKeyValue content
  | "Unknown" => single (fun j => (decodeString j).map .unknown) content
  | _ => .error .shape

def decodeRepetition (j : Json) : Except Mismatch Repetition := do
  let (name, content) ← required (variant? j)
  match name with
  | "Required" => unit .required content
  | "Optional" => unit .optional content
  | "Repeated" => unit .repeated content
  | _ => .error .shape

mutual

/-- The source node that a JSON value stands for. -/
def decodeNode : Json → Except Mismatch Node
  | .object [("Primitive", .object ms)] => do
    let name ← part decodeString "name" ms
    let repetition ← part decodeRepetition "repetition" ms
    let physical ← part decodePhysical "physical" ms
    let refinement ← partD none (decodeNullable decodeRefinement) "annotation" ms
    return .primitive name repetition physical refinement
  | .object [("Group", .object ms)] => do
    let name ← part decodeString "name" ms
    let repetition ← part decodeRepetition "repetition" ms
    let refinement ← partD none (decodeNullable decodeRefinement) "annotation" ms
    let fields ← nodesAt ms
    return .group name repetition refinement fields
  | _ => .error .shape

/-- The nodes in the member `fields`. -/
def nodesAt : List (String × Json) → Except Mismatch (List Node)
  | [] => .error .shape
  | (key, .array items) :: ms => if key = "fields" then decodeNodes items else nodesAt ms
  | (key, _) :: ms => if key = "fields" then .error .shape else nodesAt ms

def decodeNodes : List Json → Except Mismatch (List Node)
  | [] => .ok []
  | item :: items => do
    let node ← decodeNode item
    let nodes ← decodeNodes items
    return node :: nodes

end

end SchemaBridge.Wire
