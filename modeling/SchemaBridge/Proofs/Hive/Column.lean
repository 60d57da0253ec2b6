import SchemaBridge.Hive.Column
import SchemaBridge.Proofs.Except
import SchemaBridge.Proofs.Hive.RoundTrip

/-!
# Columns of a record

A record has one column per field (`columns_eq_ok_iff`). Columns describe a record if each type text is
read and the names make a record; the record has one field per column, in their order
(`recordOfColumns_eq_ok_iff`), and is well formed (`wellFormed_recordOfColumns`).

Main statements: `recordOfColumns_columns`, the columns of a record describe the record again, up to what a
type text does not tell; and `typeText_record_eq_iff_columns`, the columns of a record and its type text
tell the same members and fail with the same error.
-/

namespace SchemaBridge.Hive

/-! ## Columns of a record -/

theorem Column.ofField_eq_ok_iff {policies : HivePolicies} {field : Field} {column : Column} :
    Column.ofField policies field = .ok column ↔ ∃ text, typeText policies field.type = .ok text ∧
      column = { name := field.name, type := text, nullable := field.nullable } := by
  rw [Column.ofField, bind_eq_ok_iff]
  simp only [within_eq_ok_iff, pure_eq_ok_iff]

/-- The columns of fields are one column per field, in their order. -/
theorem columns_eq_ok_iff {policies : HivePolicies} {fields : List Field} {cols : List Column} :
    columns policies fields = .ok cols ↔ checkNames (fields.map Member.name) = .ok () ∧
      fields.Forall₂ (Column.ofField policies · = .ok ·) cols := by
  rw [columns, bind_eq_ok_iff]
  simp only [mapM_eq_ok_iff]
  refine ⟨fun h => ?_, fun h => ?_⟩
  · obtain ⟨u, hn, hf⟩ := h
    exact ⟨hn, hf⟩
  · obtain ⟨hn, hf⟩ := h
    exact ⟨(), hn, hf⟩

/-! ## The record of columns -/

theorem Column.toField_eq_ok_iff {column : Column} {field : Field} :
    column.toField = .ok field ↔
      ∃ t, readType column.type = .ok t ∧ field = ⟨column.name, t, column.nullable⟩ := by
  rw [Column.toField, bind_eq_ok_iff]
  simp only [within_eq_ok_iff, pure_eq_ok_iff]

/-- The record of columns has one field per column, in their order. -/
theorem recordOfColumns_eq_ok_iff {columns : List Column} {r : Record} :
    recordOfColumns columns = .ok r ↔ columns.Forall₂ (·.toField = .ok ·) r.fields := by
  rw [recordOfColumns, bind_eq_ok_iff]
  simp only [mapM_eq_ok_iff, Record.ofFields_eq_ok_iff]
  refine ⟨fun h => ?_, fun hf => ?_⟩
  · obtain ⟨fields, hf, rfl⟩ := h
    exact hf
  · exact ⟨r.fields, hf, rfl⟩

theorem wellFormed_recordOfColumns {columns : List Column} {r : Record}
    (h : recordOfColumns columns = .ok r) : r.toType.WellFormed := by
  refine DataType.wellFormed_record_iff.2 ⟨r.valid, fun f hf => ?_⟩
  have hall := recordOfColumns_eq_ok_iff.1 h
  obtain ⟨i, hi, rfl⟩ := List.getElem_of_mem hf
  obtain ⟨t, ht, he⟩ := Column.toField_eq_ok_iff.1 (hall.get (hall.length_eq ▸ hi) hi)
  rw [List.get_eq_getElem] at he
  rw [he]
  exact wellFormed_of_readType ht

/-! ## The columns of a record read back -/

/-- A field as its column tells it: the type as the text tells it, and the nullability that it has. -/
def columnField (field : Field) : Field := ⟨field.name, field.type.widen, field.nullable⟩

theorem map_name_columnField (fields : List Field) :
    (fields.map columnField).map Member.name = fields.map Member.name := by
  rw [List.map_map]
  rfl

section
variable {policies : HivePolicies} {cols : List Column}

/-- The column of a field is read back if the type of the field is not too deep. -/
theorem Column.toField_ofField_eq_ok_iff {field field' : Field} {column : Column}
    (hwf : field.type.WellFormed) (h : Column.ofField policies field = .ok column) :
    column.toField = .ok field' ↔
      field.type.depth ≤ maxNesting + 1 ∧ field' = columnField field := by
  obtain ⟨text, ht, rfl⟩ := Column.ofField_eq_ok_iff.1 h
  rw [Column.toField_eq_ok_iff]
  constructor
  · rintro ⟨t, hr, rfl⟩
    by_cases hd : field.type.depth ≤ maxNesting + 1
    · have hw := readType_of_depth_le hwf ht hd
      rw [hr, Except.ok.injEq] at hw
      exact ⟨hd, by rw [columnField, hw]⟩
    · obtain ⟨position, he⟩ := readType_of_lt_depth hwf ht (Nat.lt_of_not_le hd)
      rw [hr] at he
      cases he
  · rintro ⟨hd, rfl⟩
    exact ⟨field.type.widen, readType_of_depth_le hwf ht hd, rfl⟩

theorem toFields_eq_ok_iff {fields fields' : List Field} (hwf : ∀ f ∈ fields, f.type.WellFormed)
    (h : fields.Forall₂ (Column.ofField policies · = .ok ·) cols) :
    cols.Forall₂ (·.toField = .ok ·) fields' ↔
      (∀ f ∈ fields, f.type.depth ≤ maxNesting + 1) ∧ fields' = fields.map columnField := by
  induction h generalizing fields' with
  | nil => simp
  | @cons f column fields cols hf _ ih =>
    obtain ⟨head, tail⟩ := List.forall_mem_cons.1 hwf
    rw [List.forall₂_cons_left_iff, List.forall_mem_cons, List.map_cons]
    constructor
    · rintro ⟨g, gs, hg, hgs, rfl⟩
      obtain ⟨hd, rfl⟩ := (Column.toField_ofField_eq_ok_iff head hf).1 hg
      obtain ⟨hds, rfl⟩ := (ih tail).1 hgs
      exact ⟨⟨hd, hds⟩, rfl⟩
    · rintro ⟨⟨hd, hds⟩, rfl⟩
      have hg := (Column.toField_ofField_eq_ok_iff head hf).2 ⟨hd, rfl⟩
      exact ⟨_, _, hg, (ih tail).2 ⟨hds, rfl⟩, rfl⟩

/-- The columns of a record are read back if no field is too deep. -/
theorem recordOfColumns_columns_eq_ok_iff {r r' : Record} (hr : r.toType.WellFormed)
    (h : columns policies r.fields = .ok cols) :
    recordOfColumns cols = .ok r' ↔
      (∀ f ∈ r.fields, f.type.depth ≤ maxNesting + 1) ∧ r'.fields = r.fields.map columnField := by
  obtain ⟨-, hf⟩ := columns_eq_ok_iff.1 h
  obtain ⟨-, hwf⟩ := DataType.wellFormed_record_iff.1 hr
  rw [recordOfColumns_eq_ok_iff, toFields_eq_ok_iff hwf hf]

/-- Fields as their columns tell them have the same columns, whatever the policies are. -/
theorem columns_map_columnField {fields : List Field} (q : HivePolicies)
    (h : columns policies fields = .ok cols) : columns q (fields.map columnField) = .ok cols := by
  obtain ⟨hn, hf⟩ := columns_eq_ok_iff.1 h
  refine columns_eq_ok_iff.2 ⟨?_, ?_⟩
  · rw [map_name_columnField]
    exact hn
  · rw [List.forall₂_map_left_iff]
    refine hf.imp fun f column hc => ?_
    obtain ⟨text, ht, rfl⟩ := Column.ofField_eq_ok_iff.1 hc
    exact Column.ofField_eq_ok_iff.2 ⟨text, typeText_widen q ht, rfl⟩

/-- **The columns of a record describe the record again**, up to what a type text does not tell, if no
field is deeper than 129 levels. Nullability is kept, other than inside a type text. The record that is
read back has the same columns under any policies. -/
theorem recordOfColumns_columns {r : Record} (hr : r.toType.WellFormed)
    (h : columns policies r.fields = .ok cols) :
    r.fields.Forall₂ (fun field column => column.name = field.name ∧
        typeText policies field.type = .ok column.type ∧ column.nullable = field.nullable ∧
        column.comment = none) cols ∧
      ((∀ f ∈ r.fields, f.type.depth ≤ 129) →
        ∃ r', recordOfColumns cols = .ok r' ∧
          r'.fields = r.fields.map fun f => ⟨f.name, f.type.widen, f.nullable⟩) ∧
      ((∃ f ∈ r.fields, 129 < f.type.depth) → ∃ e, recordOfColumns cols = .error e) ∧
      ∀ r', recordOfColumns cols = .ok r' → ∀ q, columns q r'.fields = .ok cols := by
  refine ⟨?_, fun hd => ?_, fun ⟨f, hf, hd⟩ => ?_, fun r' hr' q => ?_⟩
  · refine (columns_eq_ok_iff.1 h).2.imp fun field column hc => ?_
    obtain ⟨text, ht, rfl⟩ := Column.ofField_eq_ok_iff.1 hc
    exact ⟨rfl, ht, rfl, rfl⟩
  · have hv : DataType.ValidNames ((r.fields.map columnField).map Member.name) := by
      rw [map_name_columnField]
      exact r.valid
    exact ⟨⟨_, hv⟩, (recordOfColumns_columns_eq_ok_iff hr h).2 ⟨hd, rfl⟩, rfl⟩
  · cases hc : recordOfColumns cols with
    | error e => exact ⟨e, rfl⟩
    | ok r' =>
      have hd' : f.type.depth ≤ 129 := ((recordOfColumns_columns_eq_ok_iff hr h).1 hc).1 f hf
      omega
  · obtain ⟨-, hfields⟩ := (recordOfColumns_columns_eq_ok_iff hr h).1 hr'
    rw [hfields]
    exact columns_map_columnField q h

end

/-- A record with required members at both levels, and types that are widened. -/
def sampleRecord : Record where
  fields := [⟨"Id", .int64, false⟩,
    ⟨"a b", .record [⟨"at", .timeMicros, false⟩, ⟨"kind", .enumeration ["x", "y"], true⟩], true⟩,
    ⟨"log", .map .string (.array .timestampMicros), false⟩]
  valid := by constructor <;> decide

def sampleColumns : List Column := [
  { name := "Id", type := "bigint", nullable := false },
  { name := "a b", type := "struct<at:bigint,kind:string>", nullable := true },
  { name := "log", type := "map<string,array<timestamp>>", nullable := false }]

theorem recordOfColumns_sampleColumns :
    sampleRecord.toType.WellFormed ∧
      columns { timeOfDay := .widen } sampleRecord.fields = .ok sampleColumns ∧
      (∃ r', recordOfColumns sampleColumns = .ok r' ∧ r'.fields = [⟨"Id", .int64, false⟩,
        ⟨"a b", .record [⟨"at", .int64, true⟩, ⟨"kind", .string, true⟩], true⟩,
        ⟨"log", .map .string (.array .timestampMillis), false⟩]) ∧
      ∀ r', recordOfColumns sampleColumns = .ok r' →
        columns { timestampMicros := .reject, enums := .reject } r'.fields = .ok sampleColumns := by
  have hr : sampleRecord.toType.WellFormed :=
    DataType.wellFormed_record_iff.2 ⟨sampleRecord.valid, by
      simp only [sampleRecord, List.forall_mem_cons]
      exact ⟨trivial, ⟨by constructor <;> decide, trivial, trivial, trivial⟩, ⟨trivial, trivial⟩,
        by simp⟩⟩
  have h : columns { timeOfDay := .widen } sampleRecord.fields = .ok sampleColumns := by
    decide +kernel
  obtain ⟨-, hread, -, hagain⟩ := recordOfColumns_columns hr h
  exact ⟨hr, h, hread (by decide), fun r' hr' => hagain r' hr' _⟩

/-! ## Columns and the text of a record -/

theorem commaList_eq_intercalate (texts : List String) : commaList texts = ",".intercalate texts := by
  induction texts with
  | nil => rfl
  | cons text texts ih =>
    cases texts with
    | nil => rw [commaList, String.intercalate_singleton]
    | cons text' texts =>
      rw [commaList, ih, String.intercalate_cons_cons]
      simp

section
variable (policies : HivePolicies)

/-- The members in the text of a record are its columns, nullability aside. -/
theorem memberTexts_eq_map_mapM (fields : List Field) :
    memberTexts policies fields =
      (fields.mapM (Column.ofField policies)).map (List.map fun c => (c.name, c.type)) := by
  induction fields with
  | nil => rfl
  | cons field fields ih =>
    obtain ⟨name, type, nullable⟩ := field
    rw [memberTexts, List.mapM_cons, Column.ofField, ih]
    cases within name (typeText policies type) with
    | error e => rfl
    | ok text => cases fields.mapM (Column.ofField policies) <;> rfl

/-- The text of a record is put together from its columns. -/
theorem typeText_record (fields : List Field) :
    typeText policies (.record fields) = (columns policies fields).map fun cols =>
      "struct<" ++ ",".intercalate (cols.map fun c => spellName c.name ++ ":" ++ c.type) ++ ">" := by
  rw [typeText, columns, memberTexts_eq_map_mapM]
  cases checkNames (fields.map Member.name) with
  | error e => rfl
  | ok u =>
    cases fields.mapM (Column.ofField policies) with
    | error e => rfl
    | ok cols =>
      show Except.ok (spellStruct _) = Except.ok _
      rw [spellStruct, commaList_eq_intercalate, List.map_map]
      rfl

/-- **The columns of a record and its type text agree.** There is a text exactly if there are columns; its
members are the columns, in their order; and if there is none, the error is the same. -/
theorem typeText_record_eq_iff_columns (fields : List Field) :
    (∀ s, typeText policies (.record fields) = .ok s ↔
        ∃ cols, columns policies fields = .ok cols ∧ s = "struct<" ++
          ",".intercalate (cols.map fun c => spellName c.name ++ ":" ++ c.type) ++ ">") ∧
      ∀ e, typeText policies (.record fields) = .error e ↔ columns policies fields = .error e := by
  rw [typeText_record]
  exact ⟨fun s => map_eq_ok_iff, fun e => map_eq_error_iff⟩

end

end SchemaBridge.Hive
