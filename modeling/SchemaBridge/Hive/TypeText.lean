import SchemaBridge.DataType.Record
import SchemaBridge.Hive.Spelling
import SchemaBridge.Policy
import SchemaBridge.Text.CaseMap

/-!
# Hive type texts

`Hive.typeText` writes a data type as Hive type text. A type without an exact spelling is widened or
rejected as `HivePolicies` say; what lies beyond the limits of the dialect is always rejected. An error
names the type to blame and the way to it: `element`, `key`, `value` or a member name per level.
-/

namespace SchemaBridge.Hive

/-- The greatest precision of a Hive decimal. -/
def maxDecimalPrecision : UInt32 := 38

/-- The greatest length of a Hive `char`. -/
def maxCharLength : UInt32 := 255

/-- The greatest length of a Hive `varchar`. -/
def maxVarcharLength : UInt32 := 65535

/-- Why a data type has no Hive text. -/
inductive Unwritable where
  | precision (precision : UInt32)
  | length (length most : UInt32)
  | wideningDisabled
  | complexKey
  /-- A member name that an earlier one equals up to case. -/
  | collision (name : String)
deriving DecidableEq, Repr

def Unwritable.message : Unwritable → String
  | .precision p =>
    "precision " ++ toString p ++ " exceeds the maximum of " ++ toString maxDecimalPrecision
  | .length n most => "length " ++ toString n ++ " exceeds the maximum of " ++ toString most
  | .wideningDisabled => "no exact counterpart and widening is disabled"
  | .complexKey => "map keys must be primitive"
  | .collision name => "field name '" ++ name ++ "' collides case-insensitively"

/-- The error about a type named `typeName`, seen from that type. -/
def Unwritable.error (typeName : String) (reason : Unwritable) : SchemaError :=
  .unsupportedTarget typeName "hive" reason.message ""

/-- The spelling of a wider type, if the policy admits it. -/
def widened (policy : Policy) (typeName text : String) : Except SchemaError String :=
  match policy with
  | .widen => .ok text
  | .reject => .error (Unwritable.wideningDisabled.error typeName)

/-- The first name that equals one in `seen`, or one before it, up to case; `seen` holds names in
small letters. -/
def collision? (seen : List String) : List String → Option String
  | [] => none
  | name :: names =>
    if Text.lower name ∈ seen then some name
    else collision? (Text.lower name :: seen) names

/-- Member names differ by more than case, as Hive identifiers must. -/
def checkNames (names : List String) : Except SchemaError Unit :=
  match collision? [] names with
  | none => .ok ()
  | some name => .error ((Unwritable.collision name).error "struct")

mutual

/-- A data type as Hive type text. -/
def typeText (policies : HivePolicies) : DataType → Except SchemaError String
  | .boolean => .ok "boolean"
  | .int8 => .ok "tinyint"
  | .int16 => .ok "smallint"
  | .int32 => .ok "int"
  | .int64 => .ok "bigint"
  | .float32 => .ok "float"
  | .float64 => .ok "double"
  | .decimal p s =>
    if maxDecimalPrecision < p then .error ((Unwritable.precision p).error "decimal")
    else .ok (spellDecimal p s)
  | .string => .ok "string"
  | .char n =>
    if maxCharLength < n then .error ((Unwritable.length n maxCharLength).error "char")
    else .ok (spellChar n)
  | .varchar n =>
    if maxVarcharLength < n then .error ((Unwritable.length n maxVarcharLength).error "varchar")
    else .ok (spellVarchar n)
  | .binary => .ok "binary"
  | .date => .ok "date"
  | .timestampMillis => .ok "timestamp"
  | .timestampMicros => widened policies.timestampMicros "timestamp_micros" "timestamp"
  | .timeMillis => widened policies.timeOfDay "time_millis" "int"
  | .timeMicros => widened policies.timeOfDay "time_micros" "bigint"
  | .enumeration _ => widened policies.enums "enum" "string"
  | .record fields => do
    checkNames (fields.map Member.name)
    let members ← memberTexts policies fields
    return spellStruct members
  | .array element => do
    let text ← within "element" (typeText policies element)
    return spellArray text
  | .map key value => do
    if !key.isPrimitive then throw (Unwritable.complexKey.error "map")
    let keyText ← within "key" (typeText policies key)
    let valueText ← within "value" (typeText policies value)
    return spellMap keyText valueText

/-- The member names and the texts of their types. -/
def memberTexts (policies : HivePolicies) : List Field → Except SchemaError (List (String × String))
  | [] => .ok []
  | ⟨name, type, _⟩ :: fields => do
    let text ← within name (typeText policies type)
    let texts ← memberTexts policies fields
    return (name, text) :: texts

end

end SchemaBridge.Hive
