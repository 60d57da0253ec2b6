import SchemaBridge.Error

/-!
# Data types

`DataType` is the closed set of schema types that every dialect is read into and written from. The
inductive type is plain data; `DataType.WellFormed` says which values the checked constructors
(`DataType.mkDecimal`, `DataType.mkChar`, `DataType.mkVarchar`, and `Record.ofFields` of
`SchemaBridge.DataType.Record`) can build. The module also holds the views of a type that later
modules use: its name, its children, its pre-order walk and its depth. Equality is decidable
(`DataType.same_iff`).
-/

namespace SchemaBridge

/-- A named member of a record. Whether a value may be missing is a property of the member, so that
one type can be required in one record and optional in another. -/
@[ext] structure Member (α : Type) where
  name : String
  type : α
  nullable : Bool
deriving DecidableEq, Repr

/-- A schema type. -/
inductive DataType where
  | int8
  | int16
  | int32
  | int64
  | float32
  | float64
  /-- A decimal number of `precision` digits, `scale` of them after the point. -/
  | decimal (precision scale : UInt32)
  | string
  /-- Text of exactly `size` characters. -/
  | char (size : UInt32)
  /-- Text of at most `size` characters. -/
  | varchar (size : UInt32)
  | binary
  | date
  | timeMillis
  | timeMicros
  | timestampMillis
  | timestampMicros
  | boolean
  /-- An enumeration; a source that does not carry the symbols leaves the list empty. -/
  | enumeration (symbols : List String)
  | record (fields : List (Member DataType))
  | array (element : DataType)
  | map (key value : DataType)
deriving Repr

/-- A member of a record type. -/
abbrev Field := Member DataType

namespace DataType

/-- The name of a type's shape. -/
def typeName : DataType → String
  | int8 => "int8"
  | int16 => "int16"
  | int32 => "int32"
  | int64 => "int64"
  | float32 => "float32"
  | float64 => "float64"
  | decimal .. => "decimal"
  | string => "string"
  | char _ => "char"
  | varchar _ => "varchar"
  | binary => "binary"
  | date => "date"
  | timeMillis => "time_millis"
  | timeMicros => "time_micros"
  | timestampMillis => "timestamp_millis"
  | timestampMicros => "timestamp_micros"
  | boolean => "boolean"
  | enumeration _ => "enum"
  | record _ => "struct"
  | array _ => "array"
  | map .. => "map"

/-- A primitive type has no child types. -/
def isPrimitive : DataType → Bool
  | record _ => false
  | array _ => false
  | map .. => false
  | _ => true

/-- The direct child types in declaration order. -/
def children : DataType → List DataType
  | record fields => fields.map Member.type
  | array element => [element]
  | map key value => [key, value]
  | _ => []

/-- The fields of a record type. -/
def fields? : DataType → Option (List Field)
  | record fields => some fields
  | _ => none

mutual

/-- The types met from the root down, a type before its children. -/
def walk : DataType → List DataType
  | record fields => record fields :: walkFields fields
  | array element => array element :: element.walk
  | map key value => map key value :: (key.walk ++ value.walk)
  | t => [t]

def walkFields : List Field → List DataType
  | [] => []
  | ⟨_, type, _⟩ :: fields => type.walk ++ walkFields fields

end

mutual

/-- The number of levels of a type; a primitive has one. -/
def depth : DataType → Nat
  | record fields => depthFields fields + 1
  | array element => element.depth + 1
  | map key value => max key.depth value.depth + 1
  | _ => 1

/-- The number of levels of the deepest field. -/
def depthFields : List Field → Nat
  | [] => 0
  | ⟨_, type, _⟩ :: fields => max type.depth (depthFields fields)

end

/-! ## Well-formed types -/

/-- What a record asks of its fields: there is one, and the names are present and distinct. -/
structure ValidNames (names : List String) : Prop where
  ne_nil : names ≠ []
  named : "" ∉ names
  nodup : names.Nodup

mutual

/-- The types that the checked constructors build, at every level. -/
def WellFormed : DataType → Prop
  | decimal precision scale => 0 < precision ∧ scale ≤ precision
  | char size => 0 < size
  | varchar size => 0 < size
  | record fields => ValidNames (fields.map Member.name) ∧ WellFormedFields fields
  | array element => element.WellFormed
  | map key value => key.WellFormed ∧ value.WellFormed
  | _ => True

def WellFormedFields : List Field → Prop
  | [] => True
  | ⟨_, type, _⟩ :: fields => type.WellFormed ∧ WellFormedFields fields

end

/-- A decimal type with its attributes checked. -/
def mkDecimal (precision scale : UInt32) : Except SchemaError DataType :=
  if precision = 0 then
    .error (.invalidParameters "decimal" "precision must be positive")
  else if precision < scale then
    .error (.invalidParameters "decimal"
      ("scale " ++ toString scale ++ " exceeds precision " ++ toString precision))
  else
    .ok (decimal precision scale)

/-- A text type of fixed length with its size checked. -/
def mkChar (size : UInt32) : Except SchemaError DataType :=
  if size = 0 then .error (.invalidParameters "char" "size must be positive")
  else .ok (char size)

/-- A text type of bounded length with its size checked. -/
def mkVarchar (size : UInt32) : Except SchemaError DataType :=
  if size = 0 then .error (.invalidParameters "varchar" "size must be positive")
  else .ok (varchar size)

/-! ## Equality -/

mutual

/-- Whether two types are the same, order and nullability of members included. -/
def same : DataType → DataType → Bool
  | int8, int8 => true
  | int16, int16 => true
  | int32, int32 => true
  | int64, int64 => true
  | float32, float32 => true
  | float64, float64 => true
  | decimal p s, decimal p' s' => p == p' && s == s'
  | string, string => true
  | char n, char n' => n == n'
  | varchar n, varchar n' => n == n'
  | binary, binary => true
  | date, date => true
  | timeMillis, timeMillis => true
  | timeMicros, timeMicros => true
  | timestampMillis, timestampMillis => true
  | timestampMicros, timestampMicros => true
  | boolean, boolean => true
  | enumeration symbols, enumeration symbols' => symbols == symbols'
  | record fields, record fields' => sameFields fields fields'
  | array element, array element' => element.same element'
  | map key value, map key' value' => key.same key' && value.same value'
  | _, _ => false

def sameFields : List Field → List Field → Bool
  | [], [] => true
  | ⟨name, type, nullable⟩ :: fields, ⟨name', type', nullable'⟩ :: fields' =>
    name == name' && type.same type' && nullable == nullable' && sameFields fields fields'
  | _, _ => false

end

mutual

theorem same_iff : (a b : DataType) → (a.same b = true ↔ a = b)
  | record fields, b => by
    cases b <;> simp [same, sameFields_iff fields]
  | array element, b => by
    cases b <;> simp [same, same_iff element]
  | map key value, b => by
    cases b <;> simp [same, same_iff key, same_iff value]
  | int8, b | int16, b | int32, b | int64, b | float32, b | float64, b | decimal .., b
  | string, b | char _, b | varchar _, b | binary, b | date, b | timeMillis, b | timeMicros, b
  | timestampMillis, b | timestampMicros, b | boolean, b | enumeration _, b => by
    cases b <;> simp [same]

theorem sameFields_iff : (fs gs : List Field) → (sameFields fs gs = true ↔ fs = gs)
  | [], gs => by cases gs <;> simp [sameFields]
  | ⟨name, type, nullable⟩ :: fields, gs => by
    cases gs with
    | nil => simp [sameFields]
    | cons g gs =>
      simp [sameFields, same_iff type, sameFields_iff fields gs, Member.ext_iff, and_assoc]

end

instance : DecidableEq DataType := fun a b => decidable_of_iff _ (same_iff a b)

end DataType

end SchemaBridge
