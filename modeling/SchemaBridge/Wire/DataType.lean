import SchemaBridge.DataType.Record
import SchemaBridge.Wire.Mismatch

/-!
# Data types in JSON

A data type is an object whose member `type` names its shape and whose other members are its
attributes and children. Decoding runs the checked constructors, so that what it yields is well formed
at every level. An array that holds the same parts in order is read too; of several flaws the one that
comes first in it counts.
-/

namespace SchemaBridge.Wire

/-- The JSON form of a field whose type has been encoded. -/
def fieldObject (name : String) (type : Json) (nullable : Bool) : Json :=
  .object [("name", .string name), ("data_type", type), ("nullable", .bool nullable)]

mutual

/-- The JSON form of a data type. -/
def encodeType : DataType → Json
  | .decimal precision scale => .object [("type", .string "decimal"),
      ("precision", .uint32 precision), ("scale", .uint32 scale)]
  | .char size => .object [("type", .string "char"), ("size", .uint32 size)]
  | .varchar size => .object [("type", .string "varchar"), ("size", .uint32 size)]
  | .enumeration symbols => .object [("type", .string "enum"), ("symbols", .strings symbols)]
  | .record fields =>
    .object [("type", .string "struct"), ("fields", .array (encodeFields fields))]
  | .array element => .object [("type", .string "array"), ("element", encodeType element)]
  | .map key value =>
    .object [("type", .string "map"), ("key", encodeType key), ("value", encodeType value)]
  | t => .object [("type", .string t.typeName)]

def encodeFields : List Field → List Json
  | [] => []
  | ⟨name, type, nullable⟩ :: fields =>
    fieldObject name (encodeType type) nullable :: encodeFields fields

end

/-- The JSON form of a field. -/
def encodeField (field : Field) : Json :=
  fieldObject field.name (encodeType field.type) field.nullable

/-- The JSON form of a record. -/
def encodeRecord (r : Record) : Json := .object [("fields", .array (encodeFields r.fields))]

/-- The types that have no attributes and no children. -/
def plainType? : String → Option DataType
  | "int8" => some .int8
  | "int16" => some .int16
  | "int32" => some .int32
  | "int64" => some .int64
  | "float32" => some .float32
  | "float64" => some .float64
  | "string" => some .string
  | "binary" => some .binary
  | "date" => some .date
  | "time_millis" => some .timeMillis
  | "time_micros" => some .timeMicros
  | "timestamp_millis" => some .timestampMillis
  | "timestamp_micros" => some .timestampMicros
  | "boolean" => some .boolean
  | _ => none

/-- The attributes of a type that has no children, in their order. -/
def attributeNames : String → List String
  | "decimal" => ["precision", "scale"]
  | "char" => ["size"]
  | "varchar" => ["size"]
  | "enum" => ["symbols"]
  | _ => []

/-- A type without children from its name and its attributes. -/
def decodePrimitive (tag : String) (attributes : List (String × Json)) :
    Except Mismatch DataType :=
  match tag with
  | "decimal" => do
    let precision ← part decodeUInt32 "precision" attributes
    let scale ← part decodeUInt32 "scale" attributes
    checked (DataType.mkDecimal precision scale)
  | "char" => do checked (DataType.mkChar (← part decodeUInt32 "size" attributes))
  | "varchar" => do checked (DataType.mkVarchar (← part decodeUInt32 "size" attributes))
  | "enum" => do return .enumeration (← part (decodeList decodeString) "symbols" attributes)
  | _ => required (plainType? tag)

/-- A type without children from its name and a list of all its attributes. -/
def decodePositional (tag : String) (items : List Json) : Except Mismatch DataType := do
  decodePrimitive tag (← required (parts? (attributeNames tag) (.array items)))

/-- The names of all types, in the order of declaration. -/
def typeNames : List String :=
  ["int8", "int16", "int32", "int64", "float32", "float64", "decimal", "string", "char", "varchar",
    "binary", "date", "time_millis", "time_micros", "timestamp_millis", "timestamp_micros",
    "boolean", "enum", "struct", "array", "map"]

/-- The name that a tag stands for. Inside another type a tag may also be a place in `typeNames`. -/
def tagName? (nested : Bool) : Json → Option String
  | .string name => some name
  | tag => if nested then (tag.nat? typeNames.length).bind (typeNames[·]?) else none

/-- A value that has been read from an array of which `rest` is left: nothing may be left. -/
def ending {α : Type} (rest : List Json) (value : α) : Except Mismatch α :=
  if rest.isEmpty then .ok value else .error .shape

mutual

/-- The data type that a JSON value stands for; `nested` says whether it is part of another one. -/
def decodeType (nested : Bool) : Json → Except Mismatch DataType
  | .object members =>
    match (members.lookup "type").bind (tagName? nested) with
    | some "array" => do return .array (← required (← typeAt? true "element" members))
    | some "map" => do
      let key? ← typeAt? true "key" members
      let value? ← typeAt? true "value" members
      return .map (← required key?) (← required value?)
    | some "struct" => do checked (DataType.mkRecord (← fieldsAt members))
    | some tag => decodePrimitive tag members
    | none => .error .shape
  | .array (tag :: items) =>
    match tagName? nested tag, items with
    | some "array", element :: rest => do
      let element ← decodeType true element
      ending rest (.array element)
    | some "map", key :: value :: rest => do
      let key ← decodeType true key
      let value ← decodeType true value
      ending rest (.map key value)
    | some "map", [key] => do
      let _ ← decodeType true key
      .error .shape
    | some "struct", .array items :: rest => do
      let fields ← decodeFields items
      checked (DataType.mkRecord (← ending rest fields))
    | some tag, items =>
      if tag ∈ ["array", "map", "struct"] then .error .shape else decodePositional tag items
    | none, _ => .error .shape
  | _ => .error .shape

/-- The type in the member of that name, if there is one. -/
def typeAt? (nested : Bool) (name : String) :
    List (String × Json) → Except Mismatch (Option DataType)
  | [] => .ok none
  | (key, value) :: members =>
    if key = name then (decodeType nested value).map some else typeAt? nested name members

/-- The fields in the member `fields` of a type. -/
def fieldsAt : List (String × Json) → Except Mismatch (List Field)
  | [] => .error .shape
  | (key, .array items) :: members => if key = "fields" then decodeFields items else fieldsAt members
  | (key, _) :: members => if key = "fields" then .error .shape else fieldsAt members

/-- The fields of a type. -/
def decodeFields : List Json → Except Mismatch (List Field)
  | [] => .ok []
  | item :: items => do
    let field ← decodeField true item
    let fields ← decodeFields items
    return field :: fields

/-- The field that a JSON value stands for. Its type is read first. -/
def decodeField (nested : Bool) : Json → Except Mismatch Field
  | .object members => do
    let type? ← typeAt? nested "data_type" members
    let name ← part decodeString "name" members
    let nullable ← part decodeBool "nullable" members
    return ⟨name, ← required type?, nullable⟩
  | .array (name :: type :: rest) => do
    let name ← decodeString name
    let type ← decodeType nested type
    match rest with
    | nullable :: rest => ending rest ⟨name, type, ← decodeBool nullable⟩
    | [] => .error .shape
  | _ => .error .shape

end

/-- The record that a JSON value stands for. -/
def decodeRecord : Json → Except Mismatch Record
  | .object members => do
    checked (Record.ofFields (← part (decodeList (decodeField false)) "fields" members))
  | .array (fields :: rest) => do
    let fields ← decodeList (decodeField false) fields
    checked (Record.ofFields (← ending rest fields))
  | _ => .error .shape

end SchemaBridge.Wire
