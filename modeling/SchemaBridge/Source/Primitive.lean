import SchemaBridge.DataType.Record
import SchemaBridge.Policy
import SchemaBridge.Source.Capacity

/-!
# Primitive source columns

`Source.primitiveType` maps a storage kind and an annotation to a data type. A pair without a mapping
is refused; nothing is approximated.
-/

namespace SchemaBridge.Source

/-- The refusal of a storage kind with that annotation. -/
def unsupported (physical : Physical) (refinement : Option Refinement) : SchemaError :=
  .unsupportedSource physical.label (refinementLabel refinement) ""

/-- The signed type of that width in 32-bit storage. -/
def signedType? : UInt8 → Option DataType
  | 8 => some .int8
  | 16 => some .int16
  | 32 => some .int32
  | _ => none

/-- The signed type that holds every unsigned value of that width in 32-bit storage. -/
def unsignedType? : UInt8 → Option DataType
  | 8 => some .int16
  | 16 => some .int32
  | 32 => some .int64
  | _ => none

/-- The type of a column annotated as a decimal. A missing scale is zero. -/
def decimalType (physical : Physical) (precision scale : Option UInt32) :
    Except SchemaError DataType :=
  let refusal := unsupported physical (some (.decimal precision scale))
  match precision with
  | none => .error refusal
  | some p =>
    if physical.decimalCapacity?.any (· < p) then .error refusal
    else DataType.mkDecimal p (scale.getD 0)

/-- The wider type of an unsigned column, if the policy admits it. -/
def widenUnsigned (policy : Policy) (physical : Physical) (refinement : Refinement)
    (wider : DataType) : Except SchemaError DataType :=
  match policy with
  | .widen => .ok wider
  | .reject => .error (unsupported physical (some refinement))

/-- The type of a primitive column. -/
def primitiveType (policies : SourcePolicies) (physical : Physical) (refinement : Option Refinement) :
    Except SchemaError DataType :=
  let refusal := unsupported physical refinement
  match physical, refinement with
  | .int96, _ => .ok .timestampMillis
  | .boolean, none => .ok .boolean
  | .int32, none => .ok .int32
  | .int32, some (.integer width true) =>
    match signedType? width with
    | some t => .ok t
    | none => .error refusal
  | .int32, some (.integer width false) =>
    match unsignedType? width with
    | some t => widenUnsigned policies.unsigned .int32 (.integer width false) t
    | none => .error refusal
  | .int32, some .date => .ok .date
  | .int32, some .timeMillis => .ok .timeMillis
  | .int64, none => .ok .int64
  | .int64, some (.integer width true) => if width = 64 then .ok .int64 else .error refusal
  | .int64, some (.integer width false) =>
    if width = 64 then
      widenUnsigned policies.unsigned .int64 (.integer width false) (.decimal 20 0)
    else .error refusal
  | .int64, some .timeMicros => .ok .timeMicros
  | .int64, some .timestampMillis => .ok .timestampMillis
  | .int64, some .timestampMicros => .ok .timestampMicros
  | .int32, some (.decimal p s) => decimalType .int32 p s
  | .int64, some (.decimal p s) => decimalType .int64 p s
  | .byteArray, some (.decimal p s) => decimalType .byteArray p s
  | .fixedLenByteArray n, some (.decimal p s) => decimalType (.fixedLenByteArray n) p s
  | .float, none => .ok .float32
  | .double, none => .ok .float64
  | .fixedLenByteArray n, some .float16 => if n = 2 then .ok .float32 else .error refusal
  | .byteArray, none => .ok .binary
  | .byteArray, some .bson => .ok .binary
  | .byteArray, some .utf8 => .ok .string
  | .byteArray, some .json => .ok .string
  | .byteArray, some .enumeration => .ok (.enumeration [])
  | .fixedLenByteArray _, none => .ok .binary
  | .fixedLenByteArray n, some .uuid => if n = 16 then .ok .binary else .error refusal
  | _, _ => .error refusal

end SchemaBridge.Source
