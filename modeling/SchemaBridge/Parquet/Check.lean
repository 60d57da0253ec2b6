import SchemaBridge.Parquet.Node

/-!
# Checks on primitive nodes

A primitive node must be able to hold what its annotations say. `checkPrimitive` finds the first
defect: of the length, of the logical type, then of the converted type. Groups are not checked.
-/

namespace SchemaBridge.Parquet

/-- Why a primitive node cannot be. Where a field is to blame, `name` is its name. -/
inductive Defect where
  | length (length : Int32) (name : String)
  | incompatible (logical : Logical) (converted : Converted) (name : String)
  | groupLogical (logical : Logical) (name : String)
  | groupConverted (converted : Converted) (name : String)
  | millisOnInt64 (name : String)
  | notTwoBytes (name : String)
  | logicalStorage (logical : Logical) (physical : Physical) (name : String)
  /-- The converted type needs another storage, described by `storage`. -/
  | convertedStorage (converted : Converted) (storage : String) (name : String)
  | decimalStorage
  | decimalPrecision (precision : Int32)
  | decimalScale (scale : Int32)
  | scaleAbovePrecision (scale precision : Int32)
  | decimalTooWide (physical : Physical) (precision : Int32)
  | decimalTooWideForLength (length precision most : Int32)
deriving DecidableEq, Repr

def Defect.message : Defect → String
  | .length n name =>
    "Invalid FIXED_LEN_BYTE_ARRAY length: " ++ toString n ++ " for field '" ++ name ++ "'"
  | .incompatible l c name =>
    "Logical type " ++ l.text ++ " is incompatible with converted type " ++ c.word ++
      " for field '" ++ name ++ "'"
  | .groupLogical l name =>
    l.text ++ " cannot be applied to a primitive type for field '" ++ name ++ "'"
  | .groupConverted c name => c.word ++ " cannot be applied to primitive field '" ++ name ++ "'"
  | .millisOnInt64 name => "Cannot use millisecond unit on INT64 type for field '" ++ name ++ "'"
  | .notTwoBytes name =>
    "FLOAT16 cannot annotate field '" ++ name ++
      "' because it is not a FIXED_LEN_BYTE_ARRAY(2) field"
  | .logicalStorage l p name =>
    "Cannot annotate " ++ l.text ++ " from " ++ p.word ++ " for field '" ++ name ++ "'"
  | .convertedStorage c storage name =>
    c.word ++ " cannot annotate field '" ++ name ++ "' because it is not a " ++ storage ++ " field"
  | .decimalStorage =>
    "DECIMAL can only annotate INT32, INT64, BYTE_ARRAY and FIXED_LEN_BYTE_ARRAY"
  | .decimalPrecision p => "Invalid DECIMAL precision: " ++ toString p
  | .decimalScale s => "Invalid DECIMAL scale: " ++ toString s
  | .scaleAbovePrecision s p =>
    "Invalid DECIMAL: scale (" ++ toString s ++ ") cannot be greater than precision (" ++
      toString p ++ ")"
  | .decimalTooWide physical p =>
    "Cannot represent " ++ physical.word ++ " as DECIMAL with precision " ++ toString p
  | .decimalTooWideForLength n p most =>
    "Cannot represent FIXED_LEN_BYTE_ARRAY as DECIMAL with length " ++ toString n ++
      " and precision " ++ toString p ++ ". The max precision can only be " ++ toString most

/-- The decimal digits that fit `length` bytes. The number of bits is computed in 32 bits and wraps;
from 1024 bits on there is no limit. -/
def maxPrecision (length : Int32) : Int32 :=
  let bits := 8 * length - 1
  if bits < 0 then 0
  else if 1024 ≤ bits then 2147483647
  else Int32.ofNat ((Nat.toDigits 10 (Nat.pow 2 bits.toNatClampNeg)).length - 1)

/-- A decimal on the storage of a primitive. -/
def checkDecimal (storage : Storage) : Except Defect Unit :=
  let p := storage.precision
  let s := storage.scale
  if storage.physical ∉ [.int32, .int64, .byteArray, .fixedLenByteArray] then .error .decimalStorage
  else if p < 1 then .error (.decimalPrecision p)
  else if s < 0 then .error (.decimalScale s)
  else if p < s then .error (.scaleAbovePrecision s p)
  else match storage.physical with
    | .int32 => if 9 < p then .error (.decimalTooWide .int32 p) else .ok ()
    | .int64 => if 18 < p then .error (.decimalTooWide .int64 p) else .ok ()
    | .fixedLenByteArray =>
      if maxPrecision storage.length < p then
        .error (.decimalTooWideForLength storage.length p (maxPrecision storage.length))
      else .ok ()
    | _ => .ok ()

/-- A logical type on the storage of a primitive. -/
def checkLogical (name : String) (storage : Storage) (l : Logical) : Except Defect Unit :=
  match l, storage.physical with
  | .map, _ => .error (.groupLogical l name)
  | .list, _ => .error (.groupLogical l name)
  | .decimal .., _ => checkDecimal storage
  | .enumeration, .byteArray => .ok ()
  | .string, .byteArray => .ok ()
  | .json, .byteArray => .ok ()
  | .bson, .byteArray => .ok ()
  | .date, .int32 => .ok ()
  | .time _ .millis, .int32 => .ok ()
  | .time _ .millis, .int64 => .error (.millisOnInt64 name)
  | .time _ _, .int64 => .ok ()
  | .timestamp _ _, .int64 => .ok ()
  | .integer bitWidth _, .int32 =>
    if bitWidth ≤ 32 then .ok () else .error (.logicalStorage l .int32 name)
  | .integer bitWidth _, .int64 =>
    if bitWidth = 64 then .ok () else .error (.logicalStorage l .int64 name)
  | .unknown, .int32 => .ok ()
  | .uuid, .fixedLenByteArray => .ok ()
  | .float16, .fixedLenByteArray =>
    if storage.length = 2 then .ok () else .error (.notTwoBytes name)
  | _, physical => .error (.logicalStorage l physical name)

/-- The storage that a converted type asks for: a physical type, and a length if it matters. -/
inductive Demand where
  | anything
  | decimal
  | group
  | exactly (physical : Physical)
  | bytes (length : Int32)
deriving DecidableEq, Repr

def Converted.demand : Converted → Demand
  | .none => .anything
  | .utf8 | .bson | .json | .enumeration => .exactly .byteArray
  | .decimal => .decimal
  | .date | .timeMillis | .uint8 | .uint16 | .uint32 | .int8 | .int16 | .int32 => .exactly .int32
  | .timeMicros | .timestampMillis | .timestampMicros | .uint64 | .int64 => .exactly .int64
  | .interval => .bytes 12
  | .map | .mapKeyValue | .list => .group

/-- A converted type on the storage of a primitive. -/
def checkConverted (name : String) (storage : Storage) (c : Converted) : Except Defect Unit :=
  match c.demand with
  | .anything => .ok ()
  | .decimal => checkDecimal storage
  | .group => .error (.groupConverted c name)
  | .exactly physical =>
    if storage.physical = physical then .ok ()
    else .error (.convertedStorage c physical.word name)
  | .bytes length =>
    if storage.physical = .fixedLenByteArray ∧ storage.length = length then .ok ()
    else .error (.convertedStorage c ("FIXED_LEN_BYTE_ARRAY(" ++ toString length ++ ")") name)

/-- The first defect of a primitive node. -/
def checkPrimitive (info : Info) (storage : Storage) : Except Defect Unit := do
  if storage.physical = .fixedLenByteArray ∧ storage.length < 0 then
    throw (.length storage.length info.name)
  match info.logical with
  | none => pure ()
  | some l =>
    if info.converted ≠ .none ∧ l.converted ≠ info.converted then
      throw (.incompatible l info.converted info.name)
    checkLogical info.name storage l
  checkConverted info.name storage info.converted

end SchemaBridge.Parquet
