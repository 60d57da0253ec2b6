import SchemaBridge.Proofs.DataType.WellFormed
import SchemaBridge.Proofs.Except
import SchemaBridge.Source.Primitive

/-!
# The table of primitive columns

`Maps policies physical refinement t`: the table of primitive columns has a row for this storage kind and
this annotation, and the row names the type `t`. Unsigned integers have rows where the policy admits a
wider type; decimals have one where the digits fit the storage.

Main statement: `primitiveType_eq_ok_iff`, columns are read by this table, so that a pair without a row is
refused.
-/

namespace SchemaBridge.Source

/-- The storage kinds that decimals come in. -/
def Physical.holdsDecimals : Physical → Bool
  | .int32 | .int64 | .byteArray | .fixedLenByteArray _ => true
  | _ => false

/-- The rows of the table. -/
inductive Maps (policies : SourcePolicies) : Physical → Option Refinement → DataType → Prop
  | int96 (refinement : Option Refinement) : Maps policies .int96 refinement .timestampMillis
  | boolean : Maps policies .boolean none .boolean
  | int32 : Maps policies .int32 none .int32
  | int64 : Maps policies .int64 none .int64
  | float : Maps policies .float none .float32
  | double : Maps policies .double none .float64
  | byteArray : Maps policies .byteArray none .binary
  | fixedLenByteArray (n : UInt32) : Maps policies (.fixedLenByteArray n) none .binary
  | signed8 : Maps policies .int32 (some (.integer 8 true)) .int8
  | signed16 : Maps policies .int32 (some (.integer 16 true)) .int16
  | signed32 : Maps policies .int32 (some (.integer 32 true)) .int32
  | signed64 : Maps policies .int64 (some (.integer 64 true)) .int64
  | unsigned8 : policies.unsigned = .widen →
      Maps policies .int32 (some (.integer 8 false)) .int16
  | unsigned16 : policies.unsigned = .widen →
      Maps policies .int32 (some (.integer 16 false)) .int32
  | unsigned32 : policies.unsigned = .widen →
      Maps policies .int32 (some (.integer 32 false)) .int64
  | unsigned64 : policies.unsigned = .widen →
      Maps policies .int64 (some (.integer 64 false)) (.decimal 20 0)
  | date : Maps policies .int32 (some .date) .date
  | timeMillis : Maps policies .int32 (some .timeMillis) .timeMillis
  | timeMicros : Maps policies .int64 (some .timeMicros) .timeMicros
  | timestampMillis : Maps policies .int64 (some .timestampMillis) .timestampMillis
  | timestampMicros : Maps policies .int64 (some .timestampMicros) .timestampMicros
  | decimal {physical : Physical} {p : UInt32} {scale : Option UInt32} :
      physical.holdsDecimals = true → (∀ most ∈ physical.decimalCapacity?, p ≤ most) →
      (DataType.decimal p (scale.getD 0)).WellFormed →
      Maps policies physical (some (.decimal (some p) scale)) (.decimal p (scale.getD 0))
  | float16 : Maps policies (.fixedLenByteArray 2) (some .float16) .float32
  | uuid : Maps policies (.fixedLenByteArray 16) (some .uuid) .binary
  | bson : Maps policies .byteArray (some .bson) .binary
  | utf8 : Maps policies .byteArray (some .utf8) .string
  | json : Maps policies .byteArray (some .json) .string
  | enumeration : Maps policies .byteArray (some .enumeration) (.enumeration [])

variable {policies : SourcePolicies} {physical : Physical} {refinement : Option Refinement}
  {t : DataType}

theorem decimalType_eq_ok_iff {precision scale : Option UInt32} :
    decimalType physical precision scale = .ok t ↔
      ∃ p, precision = some p ∧ (∀ most ∈ physical.decimalCapacity?, p ≤ most) ∧
        DataType.mkDecimal p (scale.getD 0) = .ok t := by
  unfold decimalType
  cases precision with
  | none => simp
  | some p =>
    have hfits : physical.decimalCapacity?.any (· < p) = false ↔
        ∀ most ∈ physical.decimalCapacity?, p ≤ most := by
      cases physical.decimalCapacity? <;> simp
    simp only [Option.some.injEq, exists_eq_left', ← hfits]
    split <;> rename_i h <;> simp [h]

theorem widenUnsigned_eq_ok_iff {policy : Policy} {refinement : Refinement} {wider : DataType} :
    widenUnsigned policy physical refinement wider = .ok t ↔ policy = .widen ∧ t = wider := by
  cases policy <;> simp [widenUnsigned, eq_comm]

theorem primitiveType_int32_signed (policies : SourcePolicies) (width : UInt8) :
    primitiveType policies .int32 (some (.integer width true)) =
      match signedType? width with
      | some t => .ok t
      | none => .error (unsupported .int32 (some (.integer width true))) := rfl

theorem primitiveType_int32_unsigned (policies : SourcePolicies) (width : UInt8) :
    primitiveType policies .int32 (some (.integer width false)) =
      match unsignedType? width with
      | some t => widenUnsigned policies.unsigned .int32 (.integer width false) t
      | none => .error (unsupported .int32 (some (.integer width false))) := rfl

/-- 32-bit storage holds signed numbers of up to its width. -/
theorem primitiveType_signed_eq_ok_iff {width : UInt8} :
    primitiveType policies .int32 (some (.integer width true)) = .ok t ↔ signedType? width = some t := by
  unfold primitiveType
  cases h : signedType? width <;> simp [h]

/-- Unsigned numbers of up to 32 bits are widened where the policy admits it. -/
theorem primitiveType_unsigned_eq_ok_iff {width : UInt8} :
    primitiveType policies .int32 (some (.integer width false)) = .ok t ↔
      policies.unsigned = .widen ∧ unsignedType? width = some t := by
  unfold primitiveType
  cases h : unsignedType? width <;> simp [h, widenUnsigned_eq_ok_iff, eq_comm (b := t)]

theorem maps_of_decimalType {precision scale : Option UInt32} (hp : physical.holdsDecimals = true)
    (h : decimalType physical precision scale = .ok t) :
    Maps policies physical (some (.decimal precision scale)) t := by
  obtain ⟨p, rfl, hfits, ht⟩ := decimalType_eq_ok_iff.1 h
  obtain ⟨rfl, hwf⟩ := DataType.mkDecimal_eq_ok_iff.1 ht
  exact .decimal hp hfits hwf

theorem maps_of_integer {width : UInt8} {signed : Bool}
    (h : primitiveType policies physical (some (.integer width signed)) = .ok t) :
    Maps policies physical (some (.integer width signed)) t := by
  cases physical with
  | int32 =>
    cases signed with
    | true =>
      have hw := primitiveType_signed_eq_ok_iff.1 h
      unfold signedType? at hw
      split at hw <;> cases hw <;> constructor
    | false =>
      obtain ⟨hp, hw⟩ := primitiveType_unsigned_eq_ok_iff.1 h
      unfold unsignedType? at hw
      split at hw <;> cases hw <;> constructor <;> exact hp
  | int64 =>
    cases signed with
    | true =>
      obtain ⟨rfl, h⟩ := (ite_error_eq_ok_iff (c := width = 64)).1 h
      cases h
      exact .signed64
    | false =>
      obtain ⟨rfl, h⟩ := (ite_error_eq_ok_iff (c := width = 64)).1 h
      obtain ⟨hp, rfl⟩ := widenUnsigned_eq_ok_iff.1 h
      exact .unsigned64 hp
  | int96 =>
    cases h
    exact .int96 _
  | boolean | float | double | byteArray | fixedLenByteArray => cases h

theorem maps_of_primitiveType (h : primitiveType policies physical refinement = .ok t) :
    Maps policies physical refinement t := by
  cases refinement with
  | none => cases physical <;> cases h <;> constructor
  | some a =>
    cases a with
    | decimal p s =>
      cases physical with
      | int32 | int64 | byteArray | fixedLenByteArray => exact maps_of_decimalType rfl h
      | int96 =>
        cases h
        exact .int96 _
      | boolean | float | double => cases h
    | integer width signed => exact maps_of_integer h
    | float16 =>
      cases physical with
      | fixedLenByteArray n =>
        obtain ⟨rfl, h⟩ := (ite_error_eq_ok_iff (c := n = 2)).1 h
        cases h
        exact .float16
      | int96 =>
        cases h
        exact .int96 _
      | boolean | int32 | int64 | float | double | byteArray => cases h
    | uuid =>
      cases physical with
      | fixedLenByteArray n =>
        obtain ⟨rfl, h⟩ := (ite_error_eq_ok_iff (c := n = 16)).1 h
        cases h
        exact .uuid
      | int96 =>
        cases h
        exact .int96 _
      | boolean | int32 | int64 | float | double | byteArray => cases h
    | _ => cases physical <;> cases h <;> constructor

/-- **Columns are read by the table.** -/
theorem primitiveType_eq_ok_iff :
    primitiveType policies physical refinement = .ok t ↔ Maps policies physical refinement t := by
  refine ⟨maps_of_primitiveType, fun h => ?_⟩
  cases h with
  | decimal hp hfits hwf =>
    have h := decimalType_eq_ok_iff.2 ⟨_, rfl, hfits, DataType.mkDecimal_eq_ok_iff.2 ⟨rfl, hwf⟩⟩
    cases physical with
    | int32 | int64 | byteArray | fixedLenByteArray => exact h
    | boolean | int96 | float | double => cases hp
  | unsigned8 hp | unsigned16 hp | unsigned32 hp =>
    exact primitiveType_unsigned_eq_ok_iff.2 ⟨hp, rfl⟩
  | unsigned64 hp => exact widenUnsigned_eq_ok_iff.2 ⟨hp, rfl⟩
  | _ => rfl

namespace Maps

theorem isPrimitive (h : Maps policies physical refinement t) : t.isPrimitive = true := by
  cases h <;> rfl

theorem wellFormed (h : Maps policies physical refinement t) : t.WellFormed := by
  cases h with
  | decimal _ _ hwf => exact hwf
  | unsigned64 _ => exact ⟨by decide, by decide⟩
  | _ => trivial

end Maps

end SchemaBridge.Source
