import SchemaBridge.Parquet.Import
import SchemaBridge.Proofs.Hive.Column
import SchemaBridge.Proofs.Hive.TypeText
import SchemaBridge.Proofs.Source.Import
import SchemaBridge.Proofs.Wire.DataType

/-!
# Catalogs

A catalog holds the data types that have been obtained so far, none at first. A step obtains one more:
from outside through one of the entry points (`Origin`), or from types that are held. A step that fails
leaves the catalog as it is.

Main statements: `wellFormed_type`, a step on a catalog of well-formed types obtains a well-formed type;
`wellFormed_run`, so does every run; and `valid_of_mem_run`, every type ever held is valid at every level.
-/

namespace SchemaBridge

/-- The types without attributes and children. -/
def DataType.plainTypes : List DataType := [
  .int8, .int16, .int32, .int64, .float32, .float64, .string, .binary, .date, .timeMillis, .timeMicros,
  .timestampMillis, .timestampMicros, .boolean]

namespace Catalog

/-- An entry point that yields a type, and what it is called with. -/
inductive Origin where
  | plain (t : DataType) (mem : t ∈ DataType.plainTypes)
  | decimal (precision scale : UInt32)
  | char (size : UInt32)
  | varchar (size : UInt32)
  | enumeration (symbols : List String)
  /-- A JSON value read as a type. -/
  | json (j : Json)
  /-- A JSON value read as a record. -/
  | recordJson (j : Json)
  /-- A JSON value read as a field, of which the type is kept. -/
  | fieldJson (j : Json)
  /-- A JSON value read as the attributes of a type of that name. -/
  | attributesJson (tag : String) (j : Json)
  | text (s : String)
  /-- A list of members, from which a record is built with the nullability that the names have. -/
  | members (s : String) (nullable : String → Bool)
  | node (policies : SourcePolicies) (root : Source.Node)
  | schema (policies : SourcePolicies) (root : Source.Node)
  | parquetNode (policies : SourcePolicies) (root : Parquet.Node)
  | parquetSchema (policies : SourcePolicies) (root : Parquet.Node)
  | message (policies : SourcePolicies) (s : String)
  | columns (cs : List Hive.Column)

/-- A step. Types that are held are named by their place in the catalog. -/
inductive Step where
  | obtain (origin : Origin)
  | array (element : Nat)
  | map (key value : Nat)
  | record (members : List (Member Nat))
  /-- A record from the fields of another one that are kept, and members after them. -/
  | rebuild (parent : Nat) (keep : Field → Bool) (members : List (Member Nat))
  | child (parent index : Nat)
  | field (parent : Nat) (name : String)
  /-- Writes a type as Hive text and reads it back. -/
  | reread (policies : HivePolicies) (type : Nat)
  /-- Lists the columns of a record and reads them back. -/
  | recolumn (policies : HivePolicies) (parent : Nat)

/-- Why a step fails. -/
inductive Failure where
  /-- No such type is held, it is no record, or it has no such child. -/
  | absent
  | schema (error : SchemaError)
  | json (mismatch : Wire.Mismatch)
deriving DecidableEq, Repr

def present {α : Type} : Option α → Except Failure α
  | some a => .ok a
  | none => .error .absent

def ofSchema {α : Type} (r : Except SchemaError α) : Except Failure α := r.mapError .schema

def ofJson {α : Type} (r : Except Wire.Mismatch α) : Except Failure α := r.mapError .json

/-- The type that an entry point yields. -/
def Origin.type : Origin → Except Failure DataType
  | .plain t _ => .ok t
  | .decimal precision scale => ofSchema (DataType.mkDecimal precision scale)
  | .char size => ofSchema (DataType.mkChar size)
  | .varchar size => ofSchema (DataType.mkVarchar size)
  | .enumeration symbols => .ok (.enumeration symbols)
  | .json j => ofJson (Wire.decodeType false j)
  | .recordJson j => (ofJson (Wire.decodeRecord j)).map Record.toType
  | .fieldJson j => (ofJson (Wire.decodeField false j)).map Member.type
  | .attributesJson tag j => do
    let parts ← present (Wire.parts? (Wire.attributeNames tag) j)
    ofJson (Wire.decodePrimitive tag parts)
  | .text s => ofSchema (Hive.readType s)
  | .members s nullable => do
    let ms ← ofSchema (Hive.readMembers s)
    ofSchema (DataType.mkRecord (ms.map fun m => ⟨m.1, m.2, nullable m.1⟩))
  | .node policies root => ofSchema (Source.typeOf policies root)
  | .schema policies root => (ofSchema (Source.recordOf policies root)).map Record.toType
  | .parquetNode policies root => ofSchema (Parquet.typeOf policies root)
  | .parquetSchema policies root => (ofSchema (Parquet.recordOf policies root)).map Record.toType
  | .message policies s => (ofSchema (Parquet.recordOfMessage policies s)).map Record.toType
  | .columns cs => (ofSchema (Hive.recordOfColumns cs)).map Record.toType

/-- The field of a member whose type is held. -/
def fieldOf (held : List DataType) (member : Member Nat) : Except Failure Field := do
  let type ← present held[member.type]?
  return ⟨member.name, type, member.nullable⟩

/-- The fields of a record that is held. -/
def fieldsAt (held : List DataType) (record : Nat) : Except Failure (List Field) := do
  let t ← present held[record]?
  present t.fields?

/-- The type that a step obtains. -/
def Step.type (held : List DataType) : Step → Except Failure DataType
  | .obtain origin => origin.type
  | .array element => do return .array (← present held[element]?)
  | .map key value => do return .map (← present held[key]?) (← present held[value]?)
  | .record members => do
    let fields ← members.mapM (fieldOf held)
    ofSchema (DataType.mkRecord fields)
  | .rebuild parent keep members => do
    let fields ← fieldsAt held parent
    let added ← members.mapM (fieldOf held)
    ofSchema (DataType.mkRecord (fields.filter keep ++ added))
  | .child parent index => do
    let t ← present held[parent]?
    present t.children[index]?
  | .field parent name => do
    let fields ← fieldsAt held parent
    let found ← present (fields.find? (·.name == name))
    return found.type
  | .reread policies type => do
    let s ← ofSchema (Hive.typeText policies (← present held[type]?))
    ofSchema (Hive.readType s)
  | .recolumn policies parent => do
    let columns ← ofSchema (Hive.columns policies (← fieldsAt held parent))
    let r ← ofSchema (Hive.recordOfColumns columns)
    return r.toType

/-- The catalog after a step. -/
def next (held : List DataType) (step : Step) : List DataType :=
  match step.type held with
  | .ok t => held ++ [t]
  | .error _ => held

/-- The catalog after a run. -/
def run (held : List DataType) (steps : List Step) : List DataType := steps.foldl next held

/-! ## Entry points -/

theorem present_eq_ok_iff {α : Type} {a? : Option α} {a : α} : present a? = .ok a ↔ a? = some a := by
  cases a? <;> simp [present]

theorem ofSchema_eq_ok_iff {α : Type} {r : Except SchemaError α} {a : α} :
    ofSchema r = .ok a ↔ r = .ok a :=
  mapError_eq_ok_iff

theorem ofJson_eq_ok_iff {α : Type} {r : Except Wire.Mismatch α} {a : α} :
    ofJson r = .ok a ↔ r = .ok a :=
  mapError_eq_ok_iff

theorem wellFormed_plainTypes {t : DataType} (h : t ∈ DataType.plainTypes) : t.WellFormed := by
  have hall : ∀ t ∈ DataType.plainTypes, t.WellFormed := by
    simp only [DataType.plainTypes, List.forall_mem_cons]
    exact ⟨trivial, trivial, trivial, trivial, trivial, trivial, trivial, trivial, trivial, trivial,
      trivial, trivial, trivial, trivial, by simp⟩
  exact hall t h

/-- **Every entry point yields well-formed types.** -/
theorem Origin.wellFormed_type {origin : Origin} {t : DataType} (h : origin.type = .ok t) :
    t.WellFormed := by
  cases origin with
  | plain t' mem =>
    cases h
    exact wellFormed_plainTypes mem
  | decimal p s => exact (DataType.mkDecimal_eq_ok_iff.1 (ofSchema_eq_ok_iff.1 h)).2
  | char n => exact (DataType.mkChar_eq_ok_iff.1 (ofSchema_eq_ok_iff.1 h)).2
  | varchar n => exact (DataType.mkVarchar_eq_ok_iff.1 (ofSchema_eq_ok_iff.1 h)).2
  | enumeration symbols =>
    cases h
    trivial
  | json j => exact (Wire.decodeType_eq_ok_iff.1 (ofJson_eq_ok_iff.1 h)).2
  | recordJson j =>
    obtain ⟨r, hr, rfl⟩ := map_eq_ok_iff.1 h
    exact (Wire.decodeRecord_eq_ok_iff.1 (ofJson_eq_ok_iff.1 hr)).2
  | fieldJson j =>
    obtain ⟨f, hf, rfl⟩ := map_eq_ok_iff.1 h
    exact Wire.wellFormed_of_decodeField (ofJson_eq_ok_iff.1 hf)
  | attributesJson tag j =>
    obtain ⟨parts, -, ht⟩ := bind_eq_ok_iff.1 h
    exact (Wire.decodePrimitive_eq_ok_iff.1 (ofJson_eq_ok_iff.1 ht)).2
  | text s => exact Hive.wellFormed_of_readType (ofSchema_eq_ok_iff.1 h)
  | members s nullable =>
    obtain ⟨members, hm, ht⟩ := bind_eq_ok_iff.1 h
    have hwf := Hive.wellFormed_of_readMembers (ofSchema_eq_ok_iff.1 hm)
    refine DataType.wellFormed_of_mkRecord (ofSchema_eq_ok_iff.1 ht) fun f hf => ?_
    obtain ⟨m, hm, rfl⟩ := List.mem_map.1 hf
    exact hwf m hm
  | node policies root => exact Source.wellFormed_typeOf (ofSchema_eq_ok_iff.1 h)
  | parquetNode policies root => exact Source.wellFormed_typeOf (ofSchema_eq_ok_iff.1 h)
  | schema policies root =>
    obtain ⟨r, hr, rfl⟩ := map_eq_ok_iff.1 h
    exact Source.wellFormed_recordOf (ofSchema_eq_ok_iff.1 hr)
  | parquetSchema policies root =>
    obtain ⟨r, hr, rfl⟩ := map_eq_ok_iff.1 h
    exact Source.wellFormed_recordOf (ofSchema_eq_ok_iff.1 hr)
  | message policies s =>
    obtain ⟨r, hr, rfl⟩ := map_eq_ok_iff.1 h
    obtain ⟨root, -, hr⟩ := bind_eq_ok_iff.1 (ofSchema_eq_ok_iff.1 hr)
    exact Source.wellFormed_recordOf hr
  | columns cs =>
    obtain ⟨r, hr, rfl⟩ := map_eq_ok_iff.1 h
    exact Hive.wellFormed_recordOfColumns (ofSchema_eq_ok_iff.1 hr)

/-! ## Steps -/

section
variable {held : List DataType} (hheld : ∀ t ∈ held, t.WellFormed)
include hheld

theorem wellFormed_at {i : Nat} {t : DataType} (h : present held[i]? = .ok t) : t.WellFormed :=
  hheld t (List.mem_of_getElem? (present_eq_ok_iff.1 h))

theorem wellFormed_fieldsAt {record : Nat} {fields : List Field} (h : fieldsAt held record = .ok fields) :
    ∀ f ∈ fields, f.type.WellFormed := by
  obtain ⟨t, ht, hf⟩ := bind_eq_ok_iff.1 h
  have hwf := wellFormed_at hheld ht
  cases t with
  | record fields' =>
    cases hf
    exact fun f hf => hwf.of_mem_fields hf
  | _ => cases hf

theorem wellFormed_fieldOf {members : List (Member Nat)} {fields : List Field}
    (h : members.mapM (fieldOf held) = .ok fields) : ∀ f ∈ fields, f.type.WellFormed := by
  have hall := mapM_eq_ok_iff.1 h
  clear h
  induction hall with
  | nil => simp
  | cons hf _ ih =>
    obtain ⟨t, ht, hf⟩ := bind_eq_ok_iff.1 hf
    obtain rfl := pure_eq_ok_iff.1 hf
    exact List.forall_mem_cons.2 ⟨wellFormed_at hheld ht, ih⟩

/-- **One step** on a catalog of well-formed types obtains a well-formed type. -/
theorem wellFormed_type {step : Step} {t : DataType} (h : step.type held = .ok t) : t.WellFormed := by
  cases step with
  | obtain origin => exact origin.wellFormed_type h
  | array element =>
    obtain ⟨e, he, h⟩ := bind_eq_ok_iff.1 h
    obtain rfl := pure_eq_ok_iff.1 h
    exact show e.WellFormed from wellFormed_at hheld he
  | map key value =>
    obtain ⟨k, hk, h⟩ := bind_eq_ok_iff.1 h
    obtain ⟨v, hv, h⟩ := bind_eq_ok_iff.1 h
    obtain rfl := pure_eq_ok_iff.1 h
    exact ⟨wellFormed_at hheld hk, wellFormed_at hheld hv⟩
  | record members =>
    obtain ⟨fields, hf, h⟩ := bind_eq_ok_iff.1 h
    exact DataType.wellFormed_of_mkRecord (ofSchema_eq_ok_iff.1 h) (wellFormed_fieldOf hheld hf)
  | rebuild parent keep members =>
    obtain ⟨fields, hf, h⟩ := bind_eq_ok_iff.1 h
    obtain ⟨added, ha, h⟩ := bind_eq_ok_iff.1 h
    refine DataType.wellFormed_of_mkRecord (ofSchema_eq_ok_iff.1 h) fun f hmem => ?_
    rcases List.mem_append.1 hmem with hmem | hmem
    · exact wellFormed_fieldsAt hheld hf f (List.mem_of_mem_filter hmem)
    · exact wellFormed_fieldOf hheld ha f hmem
  | child parent index =>
    obtain ⟨p, hp, h⟩ := bind_eq_ok_iff.1 h
    exact (wellFormed_at hheld hp).of_mem_children (List.mem_of_getElem? (present_eq_ok_iff.1 h))
  | field parent name =>
    obtain ⟨fields, hf, h⟩ := bind_eq_ok_iff.1 h
    obtain ⟨f, hfind, h⟩ := bind_eq_ok_iff.1 h
    obtain rfl := pure_eq_ok_iff.1 h
    exact wellFormed_fieldsAt hheld hf f (List.mem_of_find?_eq_some (present_eq_ok_iff.1 hfind))
  | reread policies type =>
    obtain ⟨_, -, h⟩ := bind_eq_ok_iff.1 h
    obtain ⟨s, -, h⟩ := bind_eq_ok_iff.1 h
    exact Hive.wellFormed_of_readType (ofSchema_eq_ok_iff.1 h)
  | recolumn policies parent =>
    obtain ⟨_, -, h⟩ := bind_eq_ok_iff.1 h
    obtain ⟨columns, -, h⟩ := bind_eq_ok_iff.1 h
    obtain ⟨r, hr, h⟩ := bind_eq_ok_iff.1 h
    obtain rfl := pure_eq_ok_iff.1 h
    exact Hive.wellFormed_recordOfColumns (ofSchema_eq_ok_iff.1 hr)

theorem wellFormed_next (step : Step) : ∀ t ∈ next held step, t.WellFormed := by
  unfold next
  cases h : step.type held with
  | error e => exact hheld
  | ok t =>
    intro u hu
    rcases List.mem_append.1 hu with hu | hu
    · exact hheld u hu
    · obtain rfl := List.mem_singleton.1 hu
      exact wellFormed_type hheld h

end

/-! ## Runs -/

/-- **A run keeps a catalog well formed.** -/
theorem wellFormed_run {held : List DataType} (hheld : ∀ t ∈ held, t.WellFormed) (steps : List Step) :
    ∀ t ∈ run held steps, t.WellFormed := by
  induction steps generalizing held with
  | nil => exact hheld
  | cons step steps ih => exact ih (wellFormed_next hheld step)

/-- **Every type that is ever held is valid at every level**, whatever the run. In particular a JSON value
that has the form of a type or a record with a flaw at any level is refused. -/
theorem valid_of_mem_run :
    (∀ (steps : List Step), ∀ t ∈ run [] steps, ∀ u ∈ t.walk, u.Valid) ∧
      (∀ (nested : Bool) (j : Json) (t u : DataType), Wire.TypeForm nested j t → u ∈ t.walk → ¬u.Valid →
        ∃ e, Wire.decodeType nested j = .error e) ∧
      ∀ (j : Json) (fields : List Field) (u : DataType), Wire.RecordForm j fields →
        u ∈ (DataType.record fields).walk → ¬u.Valid → ∃ e, Wire.decodeRecord j = .error e := by
  refine ⟨fun steps t ht => ?_, fun nested j t u hf hu hv => ?_, fun j fields u hf hu hv => ?_⟩
  · exact DataType.wellFormed_iff_forall_walk.1 (wellFormed_run (by simp) steps t ht)
  · exact Wire.decodeType_eq_error_of_form hf fun hw =>
      hv (DataType.wellFormed_iff_forall_walk.1 hw u hu)
  · exact Wire.decodeRecord_eq_error_of_form hf fun hw =>
      hv (DataType.wellFormed_iff_forall_walk.1 hw u hu)

/-- A run of which the second and the third step fail. -/
def sampleRun : List Step := [
  .obtain (.text "struct<a:decimal(5,2)>"),
  .obtain (.char 0),
  .rebuild 0 (fun _ => true) [⟨"a", 0, true⟩],
  .rebuild 0 (fun _ => true) [⟨"b", 0, false⟩],
  .child 1 0,
  .map 2 1]

theorem valid_of_mem_sampleRun :
    DataType.map (.decimal 5 2) (.record [⟨"a", .decimal 5 2, true⟩,
        ⟨"b", .record [⟨"a", .decimal 5 2, true⟩], false⟩]) ∈ run [] sampleRun ∧
      (∀ u ∈ (DataType.map (.decimal 5 2) (.record [⟨"a", .decimal 5 2, true⟩,
        ⟨"b", .record [⟨"a", .decimal 5 2, true⟩], false⟩])).walk, u.Valid) ∧
      (∃ e, Wire.decodeType false (.object [("type", .string "array"),
        ("element", .object [("type", .string "char"), ("size", .uint32 0)])]) = .error e) ∧
      ∃ e, Wire.decodeRecord (.object [("fields", .array [.object [("name", .string ""),
        ("data_type", .object [("type", .string "int8")]), ("nullable", .bool true)]])]) = .error e := by
  have hmem : DataType.map (.decimal 5 2) (.record [⟨"a", .decimal 5 2, true⟩,
      ⟨"b", .record [⟨"a", .decimal 5 2, true⟩], false⟩]) ∈ run [] sampleRun := by decide +kernel
  have hform : Wire.TypeForm false (.object [("type", .string "array"),
      ("element", .object [("type", .string "char"), ("size", .uint32 0)])]) (.array (.char 0)) :=
    .array rfl rfl (.primitive rfl (.char rfl rfl))
  have hrecord : Wire.RecordForm (.object [("fields", .array [.object [("name", .string ""),
      ("data_type", .object [("type", .string "int8")]), ("nullable", .bool true)]])])
      [⟨"", .int8, true⟩] :=
    ⟨_, _, rfl, rfl, .cons rfl rfl rfl (.primitive rfl (.plain rfl)) rfl .nil⟩
  obtain ⟨hruns, htypes, hrecords⟩ := valid_of_mem_run
  refine ⟨hmem, hruns sampleRun _ hmem, htypes false _ _ (.char 0) hform ?_ ?_,
    hrecords _ _ _ hrecord (List.mem_cons_self ..) ?_⟩
  · simp [DataType.walk]
  · exact fun h => absurd (show (0 : UInt32) < 0 from h) (by decide)
  · exact fun h => h.named (by simp)

end Catalog

end SchemaBridge
