import SchemaBridge.Proofs.DataType.WellFormed

/-!
# What a Hive type text keeps of a type

`DataType.widen` is a type as its Hive text tells it: microsecond timestamps, times of day and
enumerations become the wider types that stand in for them, and every member may be missing. All else
stays: names, order, parameters and nesting. `WellFormed.widen` and `depth_widen` say that nothing is lost
that the reader checks; `widen_eq_self_iff` says which types lose nothing at all.
-/

namespace SchemaBridge

namespace DataType

mutual

/-- The type that the Hive text of a type spells. -/
def widen : DataType → DataType
  | timestampMicros => timestampMillis
  | timeMillis => int32
  | timeMicros => int64
  | enumeration _ => string
  | record fields => record (widenFields fields)
  | array element => array element.widen
  | map key value => map key.widen value.widen
  | t => t

def widenFields : List Field → List Field
  | [] => []
  | ⟨name, type, _⟩ :: fields => ⟨name, type.widen, true⟩ :: widenFields fields

end

theorem widenFields_eq_map (fields : List Field) :
    widenFields fields = fields.map fun f => ⟨f.name, f.type.widen, true⟩ := by
  induction fields with
  | nil => rfl
  | cons f fields ih => rw [widenFields, ih, List.map_cons]

theorem map_name_widenFields (fields : List Field) :
    (widenFields fields).map Member.name = fields.map Member.name := by
  rw [widenFields_eq_map, List.map_map]
  rfl

theorem mem_widenFields {fields : List Field} {f : Field} :
    f ∈ widenFields fields ↔ ∃ f' ∈ fields, ⟨f'.name, f'.type.widen, true⟩ = f := by
  rw [widenFields_eq_map, List.mem_map]

theorem WellFormed.widen {t : DataType} (h : t.WellFormed) : t.widen.WellFormed := by
  induction t using DataType.induction with
  | primitive t ht => cases t <;> first | exact h | trivial
  | record fields ih =>
    obtain ⟨hn, hf⟩ := wellFormed_record_iff.1 h
    refine wellFormed_record_iff.2 ⟨by rw [map_name_widenFields]; exact hn, fun f hm => ?_⟩
    obtain ⟨f', hm', rfl⟩ := mem_widenFields.1 hm
    exact ih f' hm' (hf f' hm')
  | array element ih => exact ih h
  | map key value ihk ihv => exact ⟨ihk h.1, ihv h.2⟩

theorem isPrimitive_widen (t : DataType) : t.widen.isPrimitive = t.isPrimitive := by
  cases t <;> rfl

theorem depthFields_widenFields {fields : List Field}
    (ih : ∀ f ∈ fields, f.type.widen.depth = f.type.depth) :
    depthFields (widenFields fields) = depthFields fields := by
  induction fields with
  | nil => rfl
  | cons f fields ihf =>
    obtain ⟨head, tail⟩ := List.forall_mem_cons.1 ih
    rw [widenFields, depthFields, depthFields, head, ihf tail]

theorem depth_widen (t : DataType) : t.widen.depth = t.depth := by
  induction t using DataType.induction with
  | primitive t ht => cases t <;> first | rfl | cases ht
  | record fields ih => rw [DataType.widen, depth, depth, depthFields_widenFields ih]
  | array element ih => rw [DataType.widen, depth, depth, ih]
  | map key value ihk ihv => rw [DataType.widen, depth, depth, ihk, ihv]

/-! ## Types that widening leaves as they are -/

/-- What a Hive text tells of a type in full, whatever it tells of the children: the type is spelled as itself,
and its members may all be missing. -/
def ToldInFull : DataType → Prop
  | timeMillis | timeMicros | timestampMicros | enumeration _ => False
  | record fields => ∀ f ∈ fields, f.nullable = true
  | _ => True

theorem widenFields_eq_self_iff {fields : List Field} :
    widenFields fields = fields ↔ ∀ f ∈ fields, f.nullable = true ∧ f.type.widen = f.type := by
  induction fields with
  | nil => simp [widenFields]
  | cons f fields ih =>
    rw [widenFields, List.cons.injEq, ih, List.forall_mem_cons, Member.ext_iff]
    simp only [true_and]
    constructor
    · rintro ⟨⟨ht, hn⟩, hfs⟩
      exact ⟨⟨hn.symm, ht⟩, hfs⟩
    · rintro ⟨⟨hn, ht⟩, hfs⟩
      exact ⟨⟨ht, hn.symm⟩, hfs⟩

/-- Widening leaves a type as it is if it is told in full, and every type met in it. -/
theorem widen_eq_self_iff {t : DataType} : t.widen = t ↔ ∀ u ∈ t.walk, u.ToldInFull := by
  induction t using DataType.induction with
  | primitive t ht =>
    cases t with
    | record | array | map => cases ht
    | _ => simp [walk, widen, ToldInFull]
  | record fields ih =>
    rw [widen, record.injEq, widenFields_eq_self_iff, walk, List.forall_mem_cons]
    constructor
    · intro h
      refine ⟨fun f hf => (h f hf).1, fun u hu => ?_⟩
      obtain ⟨f, hf, hu⟩ := mem_walkFields_iff.1 hu
      exact (ih f hf).1 (h f hf).2 u hu
    · rintro ⟨hn, h⟩ f hf
      exact ⟨hn f hf, (ih f hf).2 fun u hu => h u (mem_walkFields_iff.2 ⟨f, hf, hu⟩)⟩
  | array element ih =>
    rw [widen, array.injEq, ih, walk, List.forall_mem_cons]
    exact (and_iff_right trivial).symm
  | map key value ihk ihv =>
    rw [widen, map.injEq, ihk, ihv, walk, List.forall_mem_cons, List.forall_mem_append]
    exact (and_iff_right trivial).symm

end DataType

end SchemaBridge
