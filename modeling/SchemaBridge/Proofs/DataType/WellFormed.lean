import SchemaBridge.DataType.Record

/-!
# Well-formed types and checked constructors

`DataType.induction` is induction over types with one case for all primitives. The mutual recursions over
fields are read as bounded quantifiers (`wellFormed_record_iff`, `depth_record_le_iff`); a type is well
formed if every type met on a walk through it is valid (`wellFormed_iff_forall_walk`). Each checked
constructor is given by one equivalence: it succeeds exactly on the attributes of a well-formed type
(`mkDecimal_eq_ok_iff`, `mkChar_eq_ok_iff`, `mkVarchar_eq_ok_iff`, `mkRecord_eq_ok_iff`). Fields that are no
record are refused for their first flaw (`Record.ofFields_eq_error_iff`).
-/

namespace SchemaBridge

namespace DataType

/-! ## Induction -/

mutual

private theorem inductionType {P : DataType → Prop} (primitive : ∀ t, t.isPrimitive = true → P t)
    (record : ∀ fields, (∀ f ∈ fields, P f.type) → P (.record fields))
    (array : ∀ element, P element → P (.array element))
    (map : ∀ key value, P key → P value → P (.map key value)) : (t : DataType) → P t
  | .record fields => record fields (inductionFields primitive record array map fields)
  | .array element => array element (inductionType primitive record array map element)
  | .map key value => map key value (inductionType primitive record array map key)
      (inductionType primitive record array map value)
  | .int8 | .int16 | .int32 | .int64 | .float32 | .float64 | .decimal .. | .string | .char _
  | .varchar _ | .binary | .date | .timeMillis | .timeMicros | .timestampMillis | .timestampMicros
  | .boolean | .enumeration _ => primitive _ rfl

private theorem inductionFields {P : DataType → Prop} (primitive : ∀ t, t.isPrimitive = true → P t)
    (record : ∀ fields, (∀ f ∈ fields, P f.type) → P (.record fields))
    (array : ∀ element, P element → P (.array element))
    (map : ∀ key value, P key → P value → P (.map key value)) :
    (fields : List Field) → ∀ f ∈ fields, P f.type
  | [] => by simp
  | ⟨_, type, _⟩ :: fields => by
    have head := inductionType primitive record array map type
    have tail := inductionFields primitive record array map fields
    intro f hf
    rcases List.mem_cons.1 hf with rfl | hf
    · exact head
    · exact tail f hf

end

/-- Induction over types: all primitives are one case, and a record may use each of its fields. -/
@[elab_as_elim]
theorem induction {motive : DataType → Prop} (t : DataType)
    (primitive : ∀ t, t.isPrimitive = true → motive t)
    (record : ∀ fields, (∀ f ∈ fields, motive f.type) → motive (.record fields))
    (array : ∀ element, motive element → motive (.array element))
    (map : ∀ key value, motive key → motive value → motive (.map key value)) : motive t :=
  inductionType primitive record array map t

/-! ## Fields -/

theorem wellFormedFields_iff {fields : List Field} :
    WellFormedFields fields ↔ ∀ f ∈ fields, f.type.WellFormed := by
  induction fields with
  | nil => simp [WellFormedFields]
  | cons f fields ih => simp [WellFormedFields, ih]

theorem wellFormed_record_iff {fields : List Field} :
    (record fields).WellFormed ↔
      ValidNames (fields.map Member.name) ∧ ∀ f ∈ fields, f.type.WellFormed := by
  rw [WellFormed, wellFormedFields_iff]

theorem depthFields_le_iff {fields : List Field} {n : Nat} :
    depthFields fields ≤ n ↔ ∀ f ∈ fields, f.type.depth ≤ n := by
  induction fields with
  | nil => simp [depthFields]
  | cons f fields ih => rw [depthFields, Nat.max_le, ih, List.forall_mem_cons]

theorem WellFormed.of_mem_fields {fields : List Field} {f : Field} (h : (record fields).WellFormed)
    (hf : f ∈ fields) : f.type.WellFormed :=
  (wellFormed_record_iff.1 h).2 f hf

theorem WellFormed.of_mem_children {t c : DataType} (h : t.WellFormed) (hc : c ∈ t.children) :
    c.WellFormed := by
  cases t with
  | record fields =>
    obtain ⟨f, hf, rfl⟩ := List.mem_map.1 hc
    exact h.of_mem_fields hf
  | array element =>
    obtain rfl := List.mem_singleton.1 hc
    exact h
  | map key value =>
    rcases List.mem_cons.1 hc with rfl | hc
    · exact h.1
    · obtain rfl := List.mem_singleton.1 hc
      exact h.2
  | _ => simp [children] at hc

/-- A record is one level deeper than its deepest field. -/
theorem depth_record_le_iff {fields : List Field} {n : Nat} :
    (record fields).depth ≤ n + 1 ↔ ∀ f ∈ fields, f.type.depth ≤ n := by
  rw [depth, Nat.add_le_add_iff_right, depthFields_le_iff]

theorem depth_pos (t : DataType) : 0 < t.depth := by
  cases t <;> simp [depth]

theorem depth_of_isPrimitive {t : DataType} (h : t.isPrimitive = true) : t.depth = 1 := by
  cases t <;> simp_all [depth, isPrimitive]

/-! ## Levels -/

/-- What a type asks of its own attributes and names, whatever its children are. -/
def Valid : DataType → Prop
  | decimal precision scale => 0 < precision ∧ scale ≤ precision
  | char size => 0 < size
  | varchar size => 0 < size
  | record fields => ValidNames (fields.map Member.name)
  | _ => True

theorem walk_of_isPrimitive {t : DataType} (h : t.isPrimitive = true) : t.walk = [t] := by
  cases t <;> first | rfl | cases h

theorem mem_walkFields_iff {fields : List Field} {u : DataType} :
    u ∈ walkFields fields ↔ ∃ f ∈ fields, u ∈ f.type.walk := by
  induction fields with
  | nil => simp [walkFields]
  | cons f fields ih => simp [walkFields, ih]

/-- A type is well formed if every type met in it is valid. -/
theorem wellFormed_iff_forall_walk {t : DataType} : t.WellFormed ↔ ∀ u ∈ t.walk, u.Valid := by
  induction t using DataType.induction with
  | primitive t ht =>
    cases t with
    | record | array | map => cases ht
    | _ => simp [walk, WellFormed, Valid]
  | record fields ih =>
    rw [wellFormed_record_iff, walk, List.forall_mem_cons]
    refine and_congr Iff.rfl ?_
    constructor
    · intro h u hu
      obtain ⟨f, hf, hu⟩ := mem_walkFields_iff.1 hu
      exact (ih f hf).1 (h f hf) u hu
    · intro h f hf
      exact (ih f hf).2 fun u hu => h u (mem_walkFields_iff.2 ⟨f, hf, hu⟩)
  | array element ih =>
    rw [WellFormed, ih, walk, List.forall_mem_cons]
    exact (and_iff_right trivial).symm
  | map key value ihk ihv =>
    rw [WellFormed, ihk, ihv, walk, List.forall_mem_cons, List.forall_mem_append]
    exact (and_iff_right trivial).symm

/-! ## Checked constructors -/

theorem mkDecimal_eq_ok_iff {p s : UInt32} {t : DataType} :
    mkDecimal p s = .ok t ↔ t = .decimal p s ∧ t.WellFormed := by
  unfold mkDecimal
  split
  · rename_i h
    simp only [reduceCtorEq, false_iff, not_and]
    rintro rfl hw
    exact UInt32.pos_iff_ne_zero.1 hw.1 h
  · rename_i h
    split
    · rename_i hs
      simp only [reduceCtorEq, false_iff, not_and]
      rintro rfl hw
      exact UInt32.not_le.2 hs hw.2
    · rename_i hs
      simp only [Except.ok.injEq]
      refine ⟨fun h => ?_, fun h => ?_⟩
      · obtain rfl := h
        exact ⟨rfl, UInt32.pos_iff_ne_zero.2 h, UInt32.not_lt.1 hs⟩
      · obtain ⟨rfl, -⟩ := h
        rfl

/-- A size is refused when it is zero, whatever it is the size of. -/
private theorem checkSize_iff {size : UInt32} {make : UInt32 → DataType} {e : SchemaError} {t : DataType}
    (hw : (make size).WellFormed ↔ 0 < size) :
    (if size = 0 then .error e else .ok (make size) : Except SchemaError DataType) = .ok t ↔
      t = make size ∧ t.WellFormed := by
  split
  · rename_i h
    simp only [reduceCtorEq, false_iff, not_and]
    rintro rfl h'
    exact UInt32.pos_iff_ne_zero.1 (hw.1 h') h
  · rename_i h
    simp only [Except.ok.injEq]
    refine ⟨fun h => ?_, fun h => ?_⟩
    · obtain rfl := h
      exact ⟨rfl, hw.2 (UInt32.pos_iff_ne_zero.2 h)⟩
    · obtain ⟨rfl, -⟩ := h
      rfl

theorem mkChar_eq_ok_iff {size : UInt32} {t : DataType} :
    mkChar size = .ok t ↔ t = .char size ∧ t.WellFormed :=
  checkSize_iff Iff.rfl

theorem mkVarchar_eq_ok_iff {size : UInt32} {t : DataType} :
    mkVarchar size = .ok t ↔ t = .varchar size ∧ t.WellFormed :=
  checkSize_iff Iff.rfl

end DataType

open DataType

theorem Record.ofFields_eq_ok_iff {fields : List Field} {r : Record} :
    Record.ofFields fields = .ok r ↔ r.fields = fields := by
  unfold Record.ofFields
  split
  · rename_i h
    simp only [Except.ok.injEq]
    refine ⟨fun h => ?_, fun h => ?_⟩
    · obtain rfl := h
      rfl
    · obtain rfl := h
      rfl
  · rename_i flaw h
    simp only [reduceCtorEq, false_iff]
    rintro rfl
    rw [Record.flaw?_eq_none_iff.2 r.valid] at h
    cases h

/-- A list of fields is refused for its first flaw. -/
theorem Record.ofFields_eq_error_iff {fields : List Field} {e : SchemaError} :
    Record.ofFields fields = .error e ↔
      ∃ flaw, Record.flaw? fields = some flaw ∧ e = .invalidParameters "struct" flaw.message := by
  unfold Record.ofFields
  split
  · rename_i h
    simp [h]
  · rename_i flaw h
    simp [h, eq_comm]

theorem DataType.mkRecord_eq_ok_iff {fields : List Field} {t : DataType} :
    mkRecord fields = .ok t ↔ t = .record fields ∧ ValidNames (fields.map Member.name) := by
  unfold mkRecord
  cases h : Record.ofFields fields with
  | error e =>
    simp only [Except.map, reduceCtorEq, false_iff, not_and]
    rintro rfl hv
    have : Record.ofFields fields = .ok ⟨fields, hv⟩ := Record.ofFields_eq_ok_iff.2 rfl
    rw [h] at this
    cases this
  | ok r =>
    obtain rfl := Record.ofFields_eq_ok_iff.1 h
    simp only [Except.map, Record.toType, Except.ok.injEq]
    exact ⟨fun h => ⟨h.symm, r.valid⟩, fun h => h.1.symm⟩

/-- A record built from well-formed fields is well formed. -/
theorem DataType.wellFormed_of_mkRecord {fields : List Field} {t : DataType}
    (h : mkRecord fields = .ok t) (hf : ∀ f ∈ fields, f.type.WellFormed) : t.WellFormed := by
  obtain ⟨rfl, hv⟩ := mkRecord_eq_ok_iff.1 h
  exact wellFormed_record_iff.2 ⟨hv, hf⟩

end SchemaBridge
