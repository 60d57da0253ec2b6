import SchemaBridge.Proofs.Wire.Members

/-!
# Reading what has been written as JSON

Main statement: `read_written`. Data types, records, source trees, columns and errors are read back from
what they are written as; what is read from any JSON value is a well-formed data type or record, so that it
is read back too; and members of new names in what a data type is written as change nothing.
-/

namespace SchemaBridge.Wire

theorem decodeType_encodeType {nested : Bool} {t : DataType} (ht : t.WellFormed) :
    decodeType nested (encodeType t) = .ok t :=
  decodeType_of_addsMembers ht (.same _)

theorem decodeRecord_encodeRecord {r : Record} (hr : r.toType.WellFormed) :
    decodeRecord (encodeRecord r) = .ok r :=
  decodeRecord_of_addsMembers hr (.same _)

/-- **Reading undoes writing.** Well-formed data types and records, source trees, columns and errors are
read back as they were. Whatever a data type or a record is read from, it is well formed and read back as
well. Additional members of new names in the JSON form of a data type, at any depth, change nothing. -/
theorem read_written :
    (∀ nested (t : DataType), t.WellFormed → decodeType nested (encodeType t) = .ok t) ∧
      (∀ r : Record, r.toType.WellFormed → decodeRecord (encodeRecord r) = .ok r) ∧
      (∀ node, decodeNode (encodeNode node) = .ok node) ∧
      (∀ c, decodeColumn (encodeColumn c) = .ok c) ∧
      (∀ e, HasPosition64 e → decodeError (encodeError e) = .ok e) ∧
      (∀ nested j t, decodeType nested j = .ok t →
        t.WellFormed ∧ ∀ nested, decodeType nested (encodeType t) = .ok t) ∧
      (∀ j r, decodeRecord j = .ok r → r.toType.WellFormed ∧ decodeRecord (encodeRecord r) = .ok r) ∧
      ∀ nested (t : DataType) j, t.WellFormed → AddsMembers (encodeType t) j →
        decodeType nested j = .ok t := by
  refine ⟨fun _ _ => decodeType_encodeType, fun _ => decodeRecord_encodeRecord, decodeNode_encodeNode,
    decodeColumn_encodeColumn, fun _ => decodeError_encodeError, fun nested j t h => ?_, fun j r h => ?_,
    fun _ _ _ => decodeType_of_addsMembers⟩
  · have ht := (decodeType_eq_ok_iff.1 h).2
    exact ⟨ht, fun _ => decodeType_encodeType ht⟩
  · have hr := (decodeRecord_eq_ok_iff.1 h).2
    exact ⟨hr, decodeRecord_encodeRecord hr⟩

/-- An order with its lines. -/
def sampleOrder : Record where
  fields := [⟨"id", .int64, false⟩, ⟨"state", .enumeration ["open", "paid"], true⟩,
    ⟨"lines", .map (.varchar 12) (.array (.decimal 9 2)), true⟩]
  valid := by constructor <;> decide

/-- The order in JSON, with members of names that mean nothing in a type or in a field. -/
def annotatedOrder : Json := .object
  [("$schema", .null), ("type", .string "struct"), ("fields", .array
    [.object [("name", .string "id"), ("unique", .bool true),
        ("data_type", .object [("bits", .nat 64), ("type", .string "int64")]),
        ("nullable", .bool false), ("type", .string "key")],
      fieldObject "state" (encodeType (.enumeration ["open", "paid"])) true,
      fieldObject "lines" (encodeType (.map (.varchar 12) (.array (.decimal 9 2)))) true])]

/-- A refusal of an unreadable type. -/
def sampleRefusal : SchemaError := .malformed "array<" 6 "expected a type"

theorem read_written_order :
    sampleOrder.toType.WellFormed ∧ AddsMembers (encodeType sampleOrder.toType) annotatedOrder ∧
      decodeType false annotatedOrder = .ok sampleOrder.toType ∧
      decodeType true (encodeType sampleOrder.toType) = .ok sampleOrder.toType ∧
      decodeRecord (encodeRecord sampleOrder) = .ok sampleOrder ∧
      HasPosition64 sampleRefusal ∧ decodeError (encodeError sampleRefusal) = .ok sampleRefusal := by
  obtain ⟨-, records, -, -, errors, decoded, -, adds⟩ := read_written
  have horder : sampleOrder.toType.WellFormed :=
    DataType.wellFormed_record_iff.2 ⟨sampleOrder.valid, by
      simp only [sampleOrder, List.forall_mem_cons]
      simp [DataType.WellFormed]⟩
  have hadds : AddsMembers (encodeType sampleOrder.toType) annotatedOrder := by
    have htype : AddsMembers (encodeType .int64)
        (.object [("bits", .nat 64), ("type", .string "int64")]) :=
      (KeepsMembers.add rfl (.keep (.same _) .nil)).addsMembers (by decide)
    have hid : AddsMembers (encodeField ⟨"id", .int64, false⟩) (.object [("name", .string "id"),
        ("unique", .bool true), ("data_type", .object [("bits", .nat 64), ("type", .string "int64")]),
        ("nullable", .bool false), ("type", .string "key")]) :=
      (KeepsMembers.keep (.same _) (.add rfl (.keep htype (.keep (.same _) .nil)))).addsMembers (by decide)
    exact (KeepsMembers.add rfl (.keep (.same _) (.keep
      (.array (.cons hid (.cons (.same _) (.cons (.same _) .nil)))) .nil))).addsMembers (by decide)
  have hread := adds false _ _ horder hadds
  have hposition : HasPosition64 sampleRefusal := by
    intro input position reason h
    cases h
    decide
  exact ⟨horder, hadds, hread, (decoded _ _ _ hread).2 true, records _ horder, hposition,
    errors _ hposition⟩

end SchemaBridge.Wire
