import SchemaBridge.Proofs.DataType.WellFormed
import SchemaBridge.Proofs.Except
import SchemaBridge.Wire.DataType

/-!
# Data types read from JSON

`TypeForm nested j t`: the JSON value `j` has the form of the type `t`, whether or not the attributes and
the names in it are valid. A type is written as an object or as an array of its parts in order;
`typeParts?` is the common view of both.

Main statement: `decodeType_eq_ok_iff`, decoding yields exactly the well-formed types of which a value has
the form. A value has the form of one type at most (`TypeForm.unique`), so a value that has the form of
an ill-formed type is refused, however deep the flaw is (`decodeType_eq_error_of_form`).
-/

namespace SchemaBridge.Wire

/-! ## Parts -/

theorem required_eq_ok_iff {α : Type} {a? : Option α} {a : α} : required a? = .ok a ↔ a? = some a := by
  cases a? <;> simp [required]

theorem checked_eq_ok_iff {α : Type} {r : Except SchemaError α} {a : α} : checked r = .ok a ↔ r = .ok a :=
  mapError_eq_ok_iff

theorem part_eq_ok_iff {α : Type} {decode : Json → Except Mismatch α} {name : String}
    {parts : List (String × Json)} {a : α} :
    part decode name parts = .ok a ↔ ∃ j, parts.lookup name = some j ∧ decode j = .ok a := by
  unfold part
  cases parts.lookup name <;> simp

theorem ending_eq_ok_iff {α : Type} {rest : List Json} {a b : α} :
    ending rest a = .ok b ↔ rest = [] ∧ b = a := by
  cases rest <;> simp [ending, eq_comm]

/-- The names of the parts of a type, in the order of declaration. -/
def partNames : String → List String
  | "array" => ["element"]
  | "map" => ["key", "value"]
  | "struct" => ["fields"]
  | tag => attributeNames tag

/-- The name and the parts of a type. -/
def typeParts? (nested : Bool) : Json → Option (String × List (String × Json))
  | .object members =>
    ((members.lookup "type").bind (tagName? nested)).map fun tag => (tag, members)
  | .array (tag :: items) =>
    (tagName? nested tag).bind fun tag =>
      (parts? (partNames tag) (.array items)).map fun parts => (tag, parts)
  | _ => none

/-- The names of the parts of a field. -/
def fieldParts : List String := ["name", "data_type", "nullable"]

theorem typeAt?_eq_ok_some_iff {nested : Bool} {name : String} {members : List (String × Json)}
    {t : DataType} :
    typeAt? nested name members = .ok (some t) ↔
      ∃ j, members.lookup name = some j ∧ decodeType nested j = .ok t := by
  induction members with
  | nil => simp [typeAt?]
  | cons m members ih =>
    obtain ⟨key, value⟩ := m
    by_cases h : key = name
    · subst h
      simp [typeAt?, map_eq_ok_iff]
    · have hne : (name == key) = false := by simpa using Ne.symm h
      rw [typeAt?, if_neg h, ih, List.lookup_cons, hne]

theorem fieldsAt_eq_ok_iff {members : List (String × Json)} {fields : List Field} :
    fieldsAt members = .ok fields ↔
      ∃ items, members.lookup "fields" = some (.array items) ∧ decodeFields items = .ok fields := by
  induction members with
  | nil => simp [fieldsAt]
  | cons m members ih =>
    obtain ⟨key, value⟩ := m
    by_cases h : key = "fields"
    · subst h
      cases value <;> simp [fieldsAt]
    · have hne : ("fields" == key) = false := by simpa using Ne.symm h
      cases value <;> simp only [fieldsAt, if_neg h, ih, List.lookup_cons, hne]

/-! ## One level -/

/-- What the parts of a type are decoded to. -/
inductive Decodes (tag : String) (parts : List (String × Json)) : DataType → Prop
  | primitive {t : DataType} : decodePrimitive tag parts = .ok t → Decodes tag parts t
  | array {e : Json} {t : DataType} : tag = "array" →
      parts.lookup "element" = some e → decodeType true e = .ok t → Decodes tag parts (.array t)
  | map {k v : Json} {key value : DataType} : tag = "map" →
      parts.lookup "key" = some k → decodeType true k = .ok key →
      parts.lookup "value" = some v → decodeType true v = .ok value →
      Decodes tag parts (.map key value)
  | struct {items : List Json} {fields : List Field} {t : DataType} : tag = "struct" →
      parts.lookup "fields" = some (.array items) → decodeFields items = .ok fields →
      DataType.mkRecord fields = .ok t → Decodes tag parts t

/-- The names of the types that have child types. -/
def nestedNames : List String := ["array", "map", "struct"]

theorem decodes_array_iff {parts : List (String × Json)} {t : DataType} :
    Decodes "array" parts t ↔
      ∃ e, parts.lookup "element" = some e ∧ ∃ u, decodeType true e = .ok u ∧ t = .array u := by
  refine ⟨fun h => ?_, fun h => ?_⟩
  · cases h with
    | primitive h => cases h
    | array _ he hu => exact ⟨_, he, _, hu, rfl⟩
    | map htag | struct htag => simp at htag
  · obtain ⟨e, he, u, hu, rfl⟩ := h
    exact .array rfl he hu

theorem decodes_map_iff {parts : List (String × Json)} {t : DataType} :
    Decodes "map" parts t ↔
      ∃ k, parts.lookup "key" = some k ∧ ∃ key, decodeType true k = .ok key ∧
        ∃ v, parts.lookup "value" = some v ∧ ∃ value, decodeType true v = .ok value ∧
          t = .map key value := by
  refine ⟨fun h => ?_, fun h => ?_⟩
  · cases h with
    | primitive h => cases h
    | map _ hk hkey hv hvalue => exact ⟨_, hk, _, hkey, _, hv, _, hvalue, rfl⟩
    | array htag | struct htag => simp at htag
  · obtain ⟨k, hk, key, hkey, v, hv, value, hvalue, rfl⟩ := h
    exact .map rfl hk hkey hv hvalue

theorem decodes_struct_iff {parts : List (String × Json)} {t : DataType} :
    Decodes "struct" parts t ↔
      ∃ items, parts.lookup "fields" = some (.array items) ∧
        ∃ fields, decodeFields items = .ok fields ∧ DataType.mkRecord fields = .ok t := by
  refine ⟨fun h => ?_, fun h => ?_⟩
  · cases h with
    | primitive h => cases h
    | struct _ hi hf ht => exact ⟨_, hi, _, hf, ht⟩
    | array htag | map htag => simp at htag
  · obtain ⟨items, hi, fields, hf, ht⟩ := h
    exact .struct rfl hi hf ht

theorem decodes_primitive_iff {parts : List (String × Json)} {tag : String} {t : DataType}
    (htag : tag ∉ nestedNames) : Decodes tag parts t ↔ decodePrimitive tag parts = .ok t := by
  constructor
  · intro h
    cases h with
    | primitive h => exact h
    | array h | map h | struct h => simp [nestedNames, h] at htag
  · exact .primitive

theorem decodeType_object_iff {nested : Bool} {members : List (String × Json)} {tag : String}
    {t : DataType} (htag : (members.lookup "type").bind (tagName? nested) = some tag) :
    decodeType nested (.object members) = .ok t ↔ Decodes tag members t := by
  rw [decodeType, htag]
  split
  case h_1 he =>
    cases he
    rw [decodes_array_iff]
    simp only [bind_eq_ok_iff, pure_eq_ok_iff, required_eq_ok_iff]
    refine ⟨fun h => ?_, fun h => ?_⟩
    · obtain ⟨_, hu, u, rfl, rfl⟩ := h
      obtain ⟨e, he, hu⟩ := typeAt?_eq_ok_some_iff.1 hu
      exact ⟨e, he, u, hu, rfl⟩
    · obtain ⟨e, he, u, hu, rfl⟩ := h
      exact ⟨_, typeAt?_eq_ok_some_iff.2 ⟨e, he, hu⟩, u, rfl, rfl⟩
  case h_2 he =>
    cases he
    rw [decodes_map_iff]
    simp only [bind_eq_ok_iff, pure_eq_ok_iff, required_eq_ok_iff]
    refine ⟨fun h => ?_, fun h => ?_⟩
    · obtain ⟨_, hk, _, hv, key, rfl, value, rfl, rfl⟩ := h
      obtain ⟨k, hk, hkey⟩ := typeAt?_eq_ok_some_iff.1 hk
      obtain ⟨v, hv, hvalue⟩ := typeAt?_eq_ok_some_iff.1 hv
      exact ⟨k, hk, key, hkey, v, hv, value, hvalue, rfl⟩
    · obtain ⟨k, hk, key, hkey, v, hv, value, hvalue, rfl⟩ := h
      exact ⟨_, typeAt?_eq_ok_some_iff.2 ⟨k, hk, hkey⟩, _, typeAt?_eq_ok_some_iff.2 ⟨v, hv, hvalue⟩,
        key, rfl, value, rfl, rfl⟩
  case h_3 he =>
    cases he
    rw [decodes_struct_iff]
    simp only [bind_eq_ok_iff, checked_eq_ok_iff, fieldsAt_eq_ok_iff]
    refine ⟨fun h => ?_, fun h => ?_⟩
    · obtain ⟨fields, ⟨items, hi, hf⟩, ht⟩ := h
      exact ⟨items, hi, fields, hf, ht⟩
    · obtain ⟨items, hi, fields, hf, ht⟩ := h
      exact ⟨fields, ⟨items, hi, hf⟩, ht⟩
  case h_4 ha hm hs he =>
    cases he
    have htag : tag ∉ nestedNames := by
      simp only [nestedNames, List.mem_cons, List.not_mem_nil, or_false, not_or]
      exact ⟨fun h => ha (h ▸ rfl), fun h => hm (h ▸ rfl), fun h => hs (h ▸ rfl)⟩
    exact (decodes_primitive_iff htag).symm
  case h_5 he => cases he

theorem partNames_of_not_mem {tag : String} (htag : tag ∉ nestedNames) :
    partNames tag = attributeNames tag := by
  unfold partNames
  split <;> simp [nestedNames] at htag ⊢

theorem decodeType_array_iff {nested : Bool} {j : Json} {items : List Json} {tag : String}
    {t : DataType} (htag : tagName? nested j = some tag) :
    decodeType nested (.array (j :: items)) = .ok t ↔
      ∃ parts, parts? (partNames tag) (.array items) = some parts ∧ Decodes tag parts t := by
  unfold decodeType
  rw [htag]
  by_cases ha : tag = "array"
  · subst ha
    rcases items with _ | ⟨e, _ | ⟨f, items⟩⟩
    · simp [parts?, partNames]
    · simp [parts?, partNames, decodes_array_iff, bind_eq_ok_iff, ending_eq_ok_iff]
    · simp [parts?, partNames, bind_eq_ok_iff, ending_eq_ok_iff]
  by_cases hm : tag = "map"
  · subst hm
    rcases items with _ | ⟨k, _ | ⟨v, _ | ⟨f, items⟩⟩⟩
    · simp [parts?, partNames]
    · simp [parts?, partNames, bind_eq_ok_iff]
    · simp [parts?, partNames, decodes_map_iff, bind_eq_ok_iff, ending_eq_ok_iff, List.lookup_cons]
    · simp [parts?, partNames, bind_eq_ok_iff, ending_eq_ok_iff]
  by_cases hs : tag = "struct"
  · subst hs
    rcases items with _ | ⟨f, items⟩
    · simp [parts?, partNames]
    · cases items <;> cases f <;>
        simp [parts?, partNames, decodes_struct_iff, bind_eq_ok_iff, ending_eq_ok_iff, checked_eq_ok_iff]
  have hn : tag ∉ nestedNames := by simp [nestedNames, ha, hm, hs]
  rw [partNames_of_not_mem hn]
  simp only [decodes_primitive_iff hn]
  split <;> simp_all [decodePositional, bind_eq_ok_iff, required_eq_ok_iff, nestedNames]

/-- **One level of decoding**: an object and an array are decoded by their parts. -/
theorem decodeType_eq_ok_iff_decodes {nested : Bool} {j : Json} {t : DataType} :
    decodeType nested j = .ok t ↔
      ∃ tag parts, typeParts? nested j = some (tag, parts) ∧ Decodes tag parts t := by
  cases j with
  | object members =>
    cases htag : (members.lookup "type").bind (tagName? nested) with
    | none => simp [decodeType, typeParts?, htag]
    | some tag => simp [decodeType_object_iff htag, typeParts?, htag]
  | array items =>
    cases items with
    | nil => simp [decodeType, typeParts?]
    | cons j items =>
      cases htag : tagName? nested j with
      | none => simp [decodeType, typeParts?, htag]
      | some tag => simp [decodeType_array_iff htag, typeParts?, htag]
  | _ => simp [decodeType, typeParts?]

theorem decodeFields_eq_ok_iff {items : List Json} {fields : List Field} :
    decodeFields items = .ok fields ↔ items.Forall₂ (decodeField true · = .ok ·) fields := by
  have h : decodeFields items = items.mapM (decodeField true) := by
    induction items with
    | nil => rfl
    | cons item items ih => rw [decodeFields, List.mapM_cons, ih]
  rw [h, mapM_eq_ok_iff]

/-- A field is decoded by its parts. -/
theorem decodeField_eq_ok_iff {nested : Bool} {j : Json} {field : Field} :
    decodeField nested j = .ok field ↔
      ∃ parts, parts? fieldParts j = some parts ∧ part decodeString "name" parts = .ok field.name ∧
        (∃ d, parts.lookup "data_type" = some d ∧ decodeType nested d = .ok field.type) ∧
        part decodeBool "nullable" parts = .ok field.nullable := by
  obtain ⟨name, type, nullable⟩ := field
  cases j with
  | object members =>
    simp only [decodeField, bind_eq_ok_iff, pure_eq_ok_iff, required_eq_ok_iff, parts?, Option.some.injEq,
      exists_eq_left', Member.mk.injEq]
    refine ⟨fun h => ?_, fun h => ?_⟩
    · obtain ⟨_, ht, n, hn, b, hb, t, rfl, rfl, rfl, rfl⟩ := h
      exact ⟨hn, typeAt?_eq_ok_some_iff.1 ht, hb⟩
    · obtain ⟨hn, ht, hb⟩ := h
      exact ⟨_, typeAt?_eq_ok_some_iff.2 ht, name, hn, nullable, hb, type, rfl, rfl, rfl, rfl⟩
  | array items =>
    rcases items with _ | ⟨n, _ | ⟨d, _ | ⟨b, _ | ⟨_, _⟩⟩⟩⟩
    · simp [decodeField, parts?, fieldParts]
    · simp [decodeField, parts?, fieldParts]
    · simp [decodeField, parts?, fieldParts, bind_eq_ok_iff]
    · have hparts : parts? fieldParts (.array [n, d, b]) =
          some [("name", n), ("data_type", d), ("nullable", b)] := rfl
      simp only [decodeField, bind_eq_ok_iff, ending_eq_ok_iff, hparts, Option.some.injEq,
        exists_eq_left']
      refine ⟨fun h => ?_, fun h => ?_⟩
      · obtain ⟨_, hn, _, ht, _, hb, -, he⟩ := h
        cases he
        exact ⟨hn, ⟨d, rfl, ht⟩, hb⟩
      · obtain ⟨hn, ⟨_, hd, ht⟩, hb⟩ := h
        cases hd
        exact ⟨name, hn, type, ht, nullable, hb, trivial, rfl⟩
    · simp [decodeField, parts?, fieldParts, bind_eq_ok_iff, ending_eq_ok_iff]
  | _ => simp [decodeField, parts?]

/-! ## Forms -/

/-- The parts have the form of a type without children. -/
inductive PrimitiveForm (tag : String) (parts : List (String × Json)) : DataType → Prop
  | plain {t : DataType} : plainType? tag = some t → PrimitiveForm tag parts t
  | decimal {p s : UInt32} : tag = "decimal" →
      part decodeUInt32 "precision" parts = .ok p → part decodeUInt32 "scale" parts = .ok s →
      PrimitiveForm tag parts (.decimal p s)
  | char {n : UInt32} : tag = "char" →
      part decodeUInt32 "size" parts = .ok n → PrimitiveForm tag parts (.char n)
  | varchar {n : UInt32} : tag = "varchar" →
      part decodeUInt32 "size" parts = .ok n → PrimitiveForm tag parts (.varchar n)
  | enumeration {symbols : List String} : tag = "enum" →
      part (decodeList decodeString) "symbols" parts = .ok symbols →
      PrimitiveForm tag parts (.enumeration symbols)

theorem wellFormed_of_plainType? {tag : String} {t : DataType} (h : plainType? tag = some t) :
    t.WellFormed := by
  unfold plainType? at h
  split at h <;> cases h <;> trivial

/-- Attributes are decoded if they have the form of a type and are valid. -/
theorem decodePrimitive_eq_ok_iff {tag : String} {parts : List (String × Json)} {t : DataType} :
    decodePrimitive tag parts = .ok t ↔ PrimitiveForm tag parts t ∧ t.WellFormed := by
  refine ⟨fun h => ?_, fun h => ?_⟩
  · unfold decodePrimitive at h
    split at h
    · obtain ⟨p, hp, h⟩ := bind_eq_ok_iff.1 h
      obtain ⟨s, hs, h⟩ := bind_eq_ok_iff.1 h
      obtain ⟨rfl, hw⟩ := DataType.mkDecimal_eq_ok_iff.1 (checked_eq_ok_iff.1 h)
      exact ⟨.decimal rfl hp hs, hw⟩
    · obtain ⟨n, hn, h⟩ := bind_eq_ok_iff.1 h
      obtain ⟨rfl, hw⟩ := DataType.mkChar_eq_ok_iff.1 (checked_eq_ok_iff.1 h)
      exact ⟨.char rfl hn, hw⟩
    · obtain ⟨n, hn, h⟩ := bind_eq_ok_iff.1 h
      obtain ⟨rfl, hw⟩ := DataType.mkVarchar_eq_ok_iff.1 (checked_eq_ok_iff.1 h)
      exact ⟨.varchar rfl hn, hw⟩
    · obtain ⟨symbols, hs, h⟩ := bind_eq_ok_iff.1 h
      obtain rfl := pure_eq_ok_iff.1 h
      exact ⟨.enumeration rfl hs, trivial⟩
    · have h := required_eq_ok_iff.1 h
      exact ⟨.plain h, wellFormed_of_plainType? h⟩
  · obtain ⟨h, hw⟩ := h
    cases h with
    | plain h =>
      unfold decodePrimitive
      split
      · cases h
      · cases h
      · cases h
      · cases h
      · exact required_eq_ok_iff.2 h
    | decimal htag hp hs =>
      subst htag
      exact bind_eq_ok_iff.2 ⟨_, hp, bind_eq_ok_iff.2 ⟨_, hs,
        checked_eq_ok_iff.2 (DataType.mkDecimal_eq_ok_iff.2 ⟨rfl, hw⟩)⟩⟩
    | char htag hn =>
      subst htag
      exact bind_eq_ok_iff.2 ⟨_, hn, checked_eq_ok_iff.2 (DataType.mkChar_eq_ok_iff.2 ⟨rfl, hw⟩)⟩
    | varchar htag hn =>
      subst htag
      exact bind_eq_ok_iff.2 ⟨_, hn, checked_eq_ok_iff.2 (DataType.mkVarchar_eq_ok_iff.2 ⟨rfl, hw⟩)⟩
    | enumeration htag hs =>
      subst htag
      exact bind_eq_ok_iff.2 ⟨_, hs, rfl⟩

theorem PrimitiveForm.unique {tag : String} {parts : List (String × Json)} {t t' : DataType}
    (h : PrimitiveForm tag parts t) (h' : PrimitiveForm tag parts t') : t = t' := by
  cases h <;> cases h' <;> simp_all [plainType?]

theorem PrimitiveForm.not_mem {tag : String} {parts : List (String × Json)} {t : DataType}
    (h : PrimitiveForm tag parts t) : tag ∉ nestedNames := by
  intro hn
  simp only [nestedNames, List.mem_cons, List.not_mem_nil, or_false] at hn
  rcases hn with rfl | rfl | rfl <;> cases h <;> simp_all [plainType?]

/-- A value without children is not read as a type with children. -/
theorem PrimitiveForm.not_mem_of_typeParts? {nested : Bool} {j : Json} {tag tag' : String}
    {parts parts' : List (String × Json)} {t : DataType} (hf : PrimitiveForm tag parts t)
    (hp : typeParts? nested j = some (tag, parts)) (hp' : typeParts? nested j = some (tag', parts')) :
    tag' ∉ nestedNames := by
  rw [hp] at hp'
  cases hp'
  exact hf.not_mem

mutual

/-- The JSON value has the form of the type. -/
inductive TypeForm : Bool → Json → DataType → Prop
  | primitive {nested : Bool} {j : Json} {tag : String} {parts : List (String × Json)} {t : DataType} :
      typeParts? nested j = some (tag, parts) → PrimitiveForm tag parts t → TypeForm nested j t
  | array {nested : Bool} {j e : Json} {parts : List (String × Json)} {t : DataType} :
      typeParts? nested j = some ("array", parts) →
      parts.lookup "element" = some e → TypeForm true e t → TypeForm nested j (.array t)
  | map {nested : Bool} {j k v : Json} {parts : List (String × Json)} {key value : DataType} :
      typeParts? nested j = some ("map", parts) →
      parts.lookup "key" = some k → TypeForm true k key →
      parts.lookup "value" = some v → TypeForm true v value → TypeForm nested j (.map key value)
  | struct {nested : Bool} {j : Json} {parts : List (String × Json)} {items : List Json}
      {fields : List Field} :
      typeParts? nested j = some ("struct", parts) →
      parts.lookup "fields" = some (.array items) → FieldForms true items fields →
      TypeForm nested j (.record fields)

/-- The JSON values have the forms of the fields. -/
inductive FieldForms : Bool → List Json → List Field → Prop
  | nil {nested : Bool} : FieldForms nested [] []
  | cons {nested : Bool} {j d : Json} {items : List Json} {parts : List (String × Json)} {field : Field}
      {fields : List Field} :
      parts? fieldParts j = some parts → part decodeString "name" parts = .ok field.name →
      parts.lookup "data_type" = some d → TypeForm nested d field.type →
      part decodeBool "nullable" parts = .ok field.nullable → FieldForms nested items fields →
      FieldForms nested (j :: items) (field :: fields)

end

/-! ## Decoded values have a form -/

theorem mem_of_lookup {parts : List (String × Json)} {name : String} {j : Json}
    (h : parts.lookup name = some j) : (name, j) ∈ parts := by
  obtain ⟨front, rest, rfl, -⟩ := List.lookup_eq_some_iff.1 h
  simp

/-- A part is smaller than the value that it is a part of. -/
theorem sizeOf_lt_of_parts? {names : List String} {j v : Json} {parts : List (String × Json)}
    {name : String} (hp : parts? names j = some parts) (h : parts.lookup name = some v) :
    sizeOf v < sizeOf j := by
  have hm := mem_of_lookup h
  cases j with
  | object members =>
    cases hp
    have := List.sizeOf_lt_of_mem hm
    simp only [Prod.mk.sizeOf_spec, Json.object.sizeOf_spec] at *
    omega
  | array items =>
    simp only [parts?] at hp
    split at hp
    · cases hp
      have := List.sizeOf_lt_of_mem (List.of_mem_zip hm).2
      rw [Json.array.sizeOf_spec]
      omega
    · cases hp
  | _ => cases hp

theorem sizeOf_lt_of_typeParts? {nested : Bool} {j v : Json} {tag : String}
    {parts : List (String × Json)} {name : String} (hp : typeParts? nested j = some (tag, parts))
    (h : parts.lookup name = some v) : sizeOf v < sizeOf j := by
  cases j with
  | object members =>
    obtain ⟨_, -, he⟩ := Option.map_eq_some_iff.1 hp
    cases he
    exact sizeOf_lt_of_parts? (show parts? [] (.object parts) = some parts from rfl) h
  | array items =>
    cases items with
    | nil => cases hp
    | cons j items =>
      obtain ⟨_, -, hp⟩ := Option.bind_eq_some_iff.1 hp
      obtain ⟨_, hp, he⟩ := Option.map_eq_some_iff.1 hp
      cases he
      have := sizeOf_lt_of_parts? hp h
      simp only [Json.array.sizeOf_spec, List.cons.sizeOf_spec] at *
      omega
  | _ => cases hp

/-- What is decoded as fields has their forms, if this is so for the values inside. -/
theorem fieldForms_of_decodeField {nested : Bool} {items : List Json} {fields : List Field}
    (ih : ∀ {d : Json} {t : DataType}, sizeOf d < sizeOf items → decodeType nested d = .ok t →
      TypeForm nested d t ∧ t.WellFormed)
    (h : items.Forall₂ (decodeField nested · = .ok ·) fields) :
    FieldForms nested items fields ∧ ∀ f ∈ fields, f.type.WellFormed := by
  induction h with
  | nil => exact ⟨.nil, by simp⟩
  | @cons item field items fields hf _ ihf =>
    obtain ⟨parts, hp, hn, ⟨d, hd, ht⟩, hb⟩ := decodeField_eq_ok_iff.1 hf
    have hlt := sizeOf_lt_of_parts? hp hd
    obtain ⟨hform, hwf⟩ := ih (by rw [List.cons.sizeOf_spec]; omega) ht
    obtain ⟨hforms, hwfs⟩ := ihf fun h => ih (by rw [List.cons.sizeOf_spec]; omega)
    exact ⟨.cons hp hn hd hform hb hforms, List.forall_mem_cons.2 ⟨hwf, hwfs⟩⟩

/-- **What is decoded is well formed**, and the value has its form. -/
theorem form_of_decodeType {nested : Bool} {t : DataType} (j : Json) (h : decodeType nested j = .ok t) :
    TypeForm nested j t ∧ t.WellFormed := by
  obtain ⟨tag, parts, hp, hd⟩ := decodeType_eq_ok_iff_decodes.1 h
  cases hd with
  | primitive h =>
    obtain ⟨hf, hw⟩ := decodePrimitive_eq_ok_iff.1 h
    exact ⟨.primitive hp hf, hw⟩
  | @array e _ htag he hu =>
    subst htag
    have := sizeOf_lt_of_typeParts? hp he
    obtain ⟨hf, hw⟩ := form_of_decodeType e hu
    exact ⟨.array hp he hf, hw⟩
  | @map k v _ _ htag hk hkey hv hvalue =>
    subst htag
    have := sizeOf_lt_of_typeParts? hp hk
    have := sizeOf_lt_of_typeParts? hp hv
    obtain ⟨hkf, hkw⟩ := form_of_decodeType k hkey
    obtain ⟨hvf, hvw⟩ := form_of_decodeType v hvalue
    exact ⟨.map hp hk hkf hv hvf, hkw, hvw⟩
  | @struct items fields _ htag hi hf ht =>
    subst htag
    have hlt : sizeOf items < sizeOf j := by
      have := sizeOf_lt_of_typeParts? hp hi
      rw [Json.array.sizeOf_spec] at this
      omega
    obtain ⟨hforms, hwfs⟩ := fieldForms_of_decodeField
      (fun {d} _ hd h => have := Nat.lt_trans hd hlt; form_of_decodeType d h)
      (decodeFields_eq_ok_iff.1 hf)
    obtain ⟨rfl, -⟩ := DataType.mkRecord_eq_ok_iff.1 ht
    exact ⟨.struct hp hi hforms, DataType.wellFormed_of_mkRecord ht hwfs⟩
termination_by sizeOf j

/-! ## Forms decide -/

mutual

/-- A value that has the form of a well-formed type is decoded to it. -/
theorem TypeForm.decodeType {nested : Bool} {j : Json} {t : DataType} :
    TypeForm nested j t → t.WellFormed → decodeType nested j = .ok t
  | .primitive hp hf, hw =>
    decodeType_eq_ok_iff_decodes.2 ⟨_, _, hp, .primitive (decodePrimitive_eq_ok_iff.2 ⟨hf, hw⟩)⟩
  | .array hp he hf, hw =>
    decodeType_eq_ok_iff_decodes.2 ⟨_, _, hp, .array rfl he (hf.decodeType hw)⟩
  | .map hp hk hkf hv hvf, hw =>
    decodeType_eq_ok_iff_decodes.2
      ⟨_, _, hp, .map rfl hk (hkf.decodeType hw.1) hv (hvf.decodeType hw.2)⟩
  | .struct hp hi hf, hw => by
    obtain ⟨hn, hw⟩ := DataType.wellFormed_record_iff.1 hw
    have hfs := decodeFields_eq_ok_iff.2 (hf.decodeField hw)
    exact decodeType_eq_ok_iff_decodes.2
      ⟨_, _, hp, .struct rfl hi hfs (DataType.mkRecord_eq_ok_iff.2 ⟨rfl, hn⟩)⟩

theorem FieldForms.decodeField {nested : Bool} {items : List Json} {fields : List Field} :
    FieldForms nested items fields → (∀ f ∈ fields, f.type.WellFormed) →
      items.Forall₂ (decodeField nested · = .ok ·) fields
  | .nil, _ => .nil
  | .cons hp hn hd hf hb hfs, hw => by
    obtain ⟨hw, hws⟩ := List.forall_mem_cons.1 hw
    have hfield := decodeField_eq_ok_iff.2 ⟨_, hp, hn, ⟨_, hd, hf.decodeType hw⟩, hb⟩
    exact .cons hfield (hfs.decodeField hws)

end

/-- **Decoding yields exactly the well-formed types** of which a value has the form. -/
theorem decodeType_eq_ok_iff {nested : Bool} {j : Json} {t : DataType} :
    decodeType nested j = .ok t ↔ TypeForm nested j t ∧ t.WellFormed :=
  ⟨form_of_decodeType j, fun h => h.1.decodeType h.2⟩

mutual

/-- A value has the form of one type at most. -/
theorem TypeForm.unique {nested : Bool} {j : Json} {t t' : DataType} :
    TypeForm nested j t → TypeForm nested j t' → t = t'
  | .primitive hp hf, h' => by
    cases h' with
    | primitive hp' hf' =>
      rw [hp] at hp'
      cases hp'
      exact hf.unique hf'
    | array hp' | map hp' | struct hp' =>
      exact absurd (by simp [nestedNames]) (hf.not_mem_of_typeParts? hp hp')
  | .array hp he hf, h' => by
    cases h' with
    | primitive hp' hf' =>
      exact absurd (by simp [nestedNames]) (hf'.not_mem_of_typeParts? hp' hp)
    | array hp' he' hf' =>
      rw [hp] at hp'
      cases hp'
      rw [he] at he'
      cases he'
      rw [hf.unique hf']
    | map hp' | struct hp' => simp [hp] at hp'
  | .map hp hk hkf hv hvf, h' => by
    cases h' with
    | primitive hp' hf' =>
      exact absurd (by simp [nestedNames]) (hf'.not_mem_of_typeParts? hp' hp)
    | map hp' hk' hkf' hv' hvf' =>
      rw [hp] at hp'
      cases hp'
      rw [hk] at hk'
      cases hk'
      rw [hv] at hv'
      cases hv'
      rw [hkf.unique hkf', hvf.unique hvf']
    | array hp' | struct hp' => simp [hp] at hp'
  | .struct hp hi hf, h' => by
    cases h' with
    | primitive hp' hf' =>
      exact absurd (by simp [nestedNames]) (hf'.not_mem_of_typeParts? hp' hp)
    | struct hp' hi' hf' =>
      rw [hp] at hp'
      cases hp'
      rw [hi] at hi'
      cases hi'
      rw [hf.unique hf']
    | array hp' | map hp' => simp [hp] at hp'

theorem FieldForms.unique {nested : Bool} {items : List Json} {fields fields' : List Field} :
    FieldForms nested items fields → FieldForms nested items fields' → fields = fields'
  | .nil, .nil => rfl
  | .cons hp hn hd hf hb hfs, .cons hp' hn' hd' hf' hb' hfs' => by
    rw [hp] at hp'
    cases hp'
    rw [hd] at hd'
    cases hd'
    have hname := Except.ok.inj (hn.symm.trans hn')
    have hnullable := Except.ok.inj (hb.symm.trans hb')
    rw [hfs.unique hfs', Member.ext hname (hf.unique hf') hnullable]

end

/-- **A value that has the form of an ill-formed type is refused**, however deep the flaw is. -/
theorem decodeType_eq_error_of_form {nested : Bool} {j : Json} {t : DataType} (h : TypeForm nested j t)
    (ht : ¬t.WellFormed) : ∃ e, decodeType nested j = .error e := by
  cases hd : decodeType nested j with
  | error e => exact ⟨e, rfl⟩
  | ok t' =>
    obtain ⟨hf, hw⟩ := decodeType_eq_ok_iff.1 hd
    exact absurd (h.unique hf ▸ hw) ht

/-! ## Fields and records -/

theorem wellFormed_of_decodeField {nested : Bool} {j : Json} {field : Field}
    (h : decodeField nested j = .ok field) : field.type.WellFormed := by
  obtain ⟨_, -, -, ⟨_, -, ht⟩, -⟩ := decodeField_eq_ok_iff.1 h
  exact (decodeType_eq_ok_iff.1 ht).2

theorem decodeList_eq_ok_iff {α : Type} {decode : Json → Except Mismatch α} {j : Json} {as : List α} :
    decodeList decode j = .ok as ↔ ∃ items, j = .array items ∧ items.Forall₂ (decode · = .ok ·) as := by
  cases j <;> simp [decodeList, mapM_eq_ok_iff]

/-- A record is decoded by its one part. -/
theorem decodeRecord_eq_ok_iff_fields {j : Json} {r : Record} :
    decodeRecord j = .ok r ↔ ∃ parts items, parts? ["fields"] j = some parts ∧
      parts.lookup "fields" = some (.array items) ∧
        items.Forall₂ (decodeField false · = .ok ·) r.fields := by
  cases j with
  | object members =>
    simp only [decodeRecord, parts?, bind_eq_ok_iff, checked_eq_ok_iff, Record.ofFields_eq_ok_iff,
      part_eq_ok_iff, decodeList_eq_ok_iff, Option.some.injEq]
    refine ⟨fun h => ?_, fun h => ?_⟩
    · obtain ⟨fields, ⟨_, hl, items, rfl, hf⟩, rfl⟩ := h
      exact ⟨members, items, rfl, hl, hf⟩
    · obtain ⟨_, items, rfl, hl, hf⟩ := h
      exact ⟨r.fields, ⟨_, hl, items, rfl, hf⟩, rfl⟩
  | array items =>
    rcases items with _ | ⟨f, _ | ⟨_, _⟩⟩
    · simp [decodeRecord, parts?]
    · have hparts : parts? ["fields"] (.array [f]) = some [("fields", f)] := rfl
      simp only [decodeRecord, hparts, bind_eq_ok_iff, checked_eq_ok_iff, Record.ofFields_eq_ok_iff,
        ending_eq_ok_iff, decodeList_eq_ok_iff, Option.some.injEq]
      refine ⟨fun h => ?_, fun h => ?_⟩
      · obtain ⟨_, ⟨items, rfl, hf⟩, _, ⟨-, rfl⟩, rfl⟩ := h
        exact ⟨_, items, rfl, rfl, hf⟩
      · obtain ⟨_, items, rfl, hl, hf⟩ := h
        cases hl
        exact ⟨_, ⟨items, rfl, hf⟩, _, ⟨trivial, rfl⟩, rfl⟩
    · simp [decodeRecord, parts?, bind_eq_ok_iff, ending_eq_ok_iff]
  | _ => simp [decodeRecord, parts?]

/-- The JSON value has the form of a record of these fields. -/
def RecordForm (j : Json) (fields : List Field) : Prop :=
  ∃ parts items, parts? ["fields"] j = some parts ∧ parts.lookup "fields" = some (.array items) ∧
    FieldForms false items fields

/-- **Decoding yields exactly the well-formed records** of which a value has the form. -/
theorem decodeRecord_eq_ok_iff {j : Json} {r : Record} :
    decodeRecord j = .ok r ↔ RecordForm j r.fields ∧ r.toType.WellFormed := by
  rw [decodeRecord_eq_ok_iff_fields]
  refine ⟨fun h => ?_, fun h => ?_⟩
  · obtain ⟨parts, items, hp, hi, hf⟩ := h
    obtain ⟨hforms, hw⟩ := fieldForms_of_decodeField (fun _ => decodeType_eq_ok_iff.1) hf
    exact ⟨⟨parts, items, hp, hi, hforms⟩, DataType.wellFormed_record_iff.2 ⟨r.valid, hw⟩⟩
  · obtain ⟨⟨parts, items, hp, hi, hforms⟩, hw⟩ := h
    exact ⟨parts, items, hp, hi, hforms.decodeField (DataType.wellFormed_record_iff.1 hw).2⟩

theorem RecordForm.unique {j : Json} {fields fields' : List Field} (h : RecordForm j fields)
    (h' : RecordForm j fields') : fields = fields' := by
  obtain ⟨parts, items, hp, hi, hf⟩ := h
  obtain ⟨parts', items', hp', hi', hf'⟩ := h'
  rw [hp] at hp'
  cases hp'
  rw [hi] at hi'
  cases hi'
  exact hf.unique hf'

/-- A value that has the form of an ill-formed record is refused. -/
theorem decodeRecord_eq_error_of_form {j : Json} {fields : List Field} (h : RecordForm j fields)
    (hw : ¬(DataType.record fields).WellFormed) : ∃ e, decodeRecord j = .error e := by
  cases hd : decodeRecord j with
  | error e => exact ⟨e, rfl⟩
  | ok r =>
    obtain ⟨hf, hr⟩ := decodeRecord_eq_ok_iff.1 hd
    exact absurd (h.unique hf ▸ hr) hw

end SchemaBridge.Wire
