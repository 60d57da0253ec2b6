import Mathlib.Data.List.Forall2
import SchemaBridge.Proofs.Wire.DataType
import SchemaBridge.Proofs.Wire.Variant

/-!
# Data types with additional members

`AddsMembers j j'`: the JSON value `j'` is `j` with additional members in its objects, at any depth, each
under a name that is new to its object. The decoders of data types look members up by their names, so that
additional ones do not matter to them: whatever adds members to what a type is written as has the form of
that type (`typeForm_of_addsMembers`).

Main statements: `decodeType_of_addsMembers`, `decodeRecord_of_addsMembers`.
-/

namespace SchemaBridge.Wire

/-! ## Additional members -/

/-- The second value is the first one with additional members in its objects. Every member is still found
under its name, with members added in it. The additional ones may stand anywhere, and no name stands twice. -/
inductive AddsMembers : Json → Json → Prop
  | same (j : Json) : AddsMembers j j
  | array {items items' : List Json} : items.Forall₂ AddsMembers items' →
      AddsMembers (.array items) (.array items')
  | object {ms ms' : List (String × Json)} : (ms'.map Prod.fst).Nodup →
      (∀ name j, ms.lookup name = some j → ∃ j', ms'.lookup name = some j') →
      (∀ name j j', ms.lookup name = some j → ms'.lookup name = some j' → AddsMembers j j') →
      AddsMembers (.object ms) (.object ms')

/-- Every member is found in the other list of members, with members added in it. -/
def KeepsMembers (ms ms' : List (String × Json)) : Prop :=
  ∀ name j, ms.lookup name = some j → ∃ j', ms'.lookup name = some j' ∧ AddsMembers j j'

namespace KeepsMembers

variable {ms ms' : List (String × Json)} {name : String} {j j' : Json}

theorem nil : KeepsMembers [] ms' := by
  intro name j hj
  cases hj

theorem keep (hj : AddsMembers j j') (h : KeepsMembers ms ms') :
    KeepsMembers ((name, j) :: ms) ((name, j') :: ms') := by
  intro key v hv
  rw [lookup_cons_eq_ite] at hv ⊢
  by_cases hkey : key = name
  · rw [if_pos hkey] at hv ⊢
    cases hv
    exact ⟨j', rfl, hj⟩
  · rw [if_neg hkey] at hv ⊢
    exact h key v hv

/-- A member of a new name. -/
theorem add (hname : ms.lookup name = none) (h : KeepsMembers ms ms') :
    KeepsMembers ms ((name, j) :: ms') := by
  intro key v hv
  have hne : key ≠ name := by
    rintro rfl
    rw [hname] at hv
    cases hv
  rw [lookup_cons_eq_ite, if_neg hne]
  exact h key v hv

theorem addsMembers (h : KeepsMembers ms ms') (hnames : (ms'.map Prod.fst).Nodup) :
    AddsMembers (.object ms) (.object ms') := by
  refine .object hnames (fun name j hj => ?_) fun name j j' hj hj' => ?_
  · obtain ⟨j', hj', -⟩ := h name j hj
    exact ⟨j', hj'⟩
  · obtain ⟨j'', hj'', hadds⟩ := h name j hj
    rw [hj'] at hj''
    cases hj''
    exact hadds

end KeepsMembers

namespace AddsMembers

variable {j : Json} {ms : List (String × Json)} {items : List Json}

theorem exists_object (h : AddsMembers (.object ms) j) :
    ∃ ms', j = .object ms' ∧ KeepsMembers ms ms' := by
  cases h with
  | same => exact ⟨ms, rfl, fun name v hv => ⟨v, hv, .same v⟩⟩
  | @object _ ms' _ hfound hadds =>
    refine ⟨ms', rfl, fun name v hv => ?_⟩
    obtain ⟨v', hv'⟩ := hfound name v hv
    exact ⟨v', hv', hadds name v v' hv hv'⟩

theorem exists_array (h : AddsMembers (.array items) j) :
    ∃ items', j = .array items' ∧ items.Forall₂ AddsMembers items' := by
  cases h with
  | same => exact ⟨items, rfl, List.forall₂_same.2 fun item _ => .same item⟩
  | array hitems => exact ⟨_, rfl, hitems⟩

theorem eq_string {text : String} (h : AddsMembers (.string text) j) : j = .string text := by
  cases h
  rfl

theorem eq_bool {b : Bool} (h : AddsMembers (.bool b) j) : j = .bool b := by
  cases h
  rfl

theorem eq_uint32 {n : UInt32} (h : AddsMembers (.uint32 n) j) : j = .uint32 n := by
  cases h
  rfl

/-- A list of texts has no objects to add members to. -/
theorem eq_strings {texts : List String} (h : AddsMembers (.strings texts) j) : j = .strings texts := by
  obtain ⟨items, rfl, hitems⟩ := h.exists_array
  rw [List.forall₂_map_left_iff] at hitems
  have heq : items = texts.map .string := by
    clear h
    induction hitems with
    | nil => rfl
    | cons hitem _ ih => rw [hitem.eq_string, ih, List.map_cons]
  rw [heq, Json.strings]

end AddsMembers

/-! ## Parts -/

section
variable {ms ms' : List (String × Json)} {name : String} {j : Json}

/-- A part that is written without objects is decoded to the same. -/
theorem KeepsMembers.part {α : Type} {decode : Json → Except Mismatch α} {a : α} (h : KeepsMembers ms ms')
    (hj : ms.lookup name = some j) (heq : ∀ {j'}, AddsMembers j j' → j' = j) (ha : decode j = .ok a) :
    part decode name ms' = .ok a := by
  obtain ⟨j', hj', hadds⟩ := h name j hj
  rw [heq hadds] at hj'
  exact part_eq_ok_iff.2 ⟨j, hj', ha⟩

theorem KeepsMembers.typeParts? {nested : Bool} {tag : String} (h : KeepsMembers ms ms')
    (htag : ms.lookup "type" = some (.string tag)) :
    typeParts? nested (.object ms') = some (tag, ms') := by
  obtain ⟨j', hj', hadds⟩ := h _ _ htag
  rw [Wire.typeParts?, hj', hadds.eq_string]
  rfl

end

theorem decodeStrings_strings (texts : List String) :
    decodeList decodeString (.strings texts) = .ok texts := by
  refine decodeList_eq_ok_iff.2 ⟨_, rfl, ?_⟩
  rw [List.forall₂_map_left_iff]
  exact List.forall₂_same.2 fun text _ => rfl

/-! ## Data types -/

/-- The name and the parts of what a type is written as, additional members included. -/
theorem exists_typeParts? {nested : Bool} {t : DataType} {j : Json} {ms : List (String × Json)}
    (henc : encodeType t = .object ms) (htag : ms.lookup "type" = some (.string t.typeName))
    (h : AddsMembers (encodeType t) j) :
    ∃ ms', typeParts? nested j = some (t.typeName, ms') ∧ KeepsMembers ms ms' := by
  rw [henc] at h
  obtain ⟨ms', rfl, hk⟩ := h.exists_object
  exact ⟨ms', hk.typeParts? htag, hk⟩

theorem typeForm_of_isPrimitive {nested : Bool} {t : DataType} {j : Json} (ht : t.isPrimitive = true)
    (h : AddsMembers (encodeType t) j) : TypeForm nested j t := by
  cases t with
  | decimal precision scale =>
    obtain ⟨ms, hp, hk⟩ := exists_typeParts? rfl rfl h
    exact .primitive hp (.decimal rfl (hk.part rfl AddsMembers.eq_uint32 (decodeUInt32_uint32 _))
      (hk.part rfl AddsMembers.eq_uint32 (decodeUInt32_uint32 _)))
  | char size =>
    obtain ⟨ms, hp, hk⟩ := exists_typeParts? rfl rfl h
    exact .primitive hp (.char rfl (hk.part rfl AddsMembers.eq_uint32 (decodeUInt32_uint32 _)))
  | varchar size =>
    obtain ⟨ms, hp, hk⟩ := exists_typeParts? rfl rfl h
    exact .primitive hp (.varchar rfl (hk.part rfl AddsMembers.eq_uint32 (decodeUInt32_uint32 _)))
  | enumeration symbols =>
    obtain ⟨ms, hp, hk⟩ := exists_typeParts? rfl rfl h
    exact .primitive hp
      (.enumeration rfl (hk.part rfl AddsMembers.eq_strings (decodeStrings_strings _)))
  | record | array | map => cases ht
  | _ =>
    obtain ⟨ms, hp, -⟩ := exists_typeParts? rfl rfl h
    exact .primitive hp (.plain rfl)

/-- The fields of a record, if what their types are written as has their forms. -/
theorem fieldForms_of_addsMembers {nested : Bool} {fields : List Field} {items : List Json}
    (ih : ∀ f ∈ fields, ∀ {j}, AddsMembers (encodeType f.type) j → TypeForm nested j f.type)
    (h : (encodeFields fields).Forall₂ AddsMembers items) : FieldForms nested items fields := by
  induction fields generalizing items with
  | nil =>
    cases h
    exact .nil
  | cons field fields ihf =>
    obtain ⟨name, type, nullable⟩ := field
    obtain ⟨head, tail⟩ := List.forall_mem_cons.1 ih
    rw [encodeFields] at h
    obtain ⟨j, items, hj, hitems, rfl⟩ := List.forall₂_cons_left_iff.1 h
    obtain ⟨ms, rfl, hk⟩ := hj.exists_object
    obtain ⟨d, hd, hadds⟩ := hk "data_type" (encodeType type) rfl
    exact .cons rfl (hk.part rfl AddsMembers.eq_string (decodeString_string name)) hd (head hadds)
      (hk.part rfl AddsMembers.eq_bool (decodeBool_bool nullable)) (ihf tail hitems)

/-- **Additional members leave the form of a type as it is.** -/
theorem typeForm_of_addsMembers {nested : Bool} {t : DataType} {j : Json}
    (h : AddsMembers (encodeType t) j) : TypeForm nested j t := by
  induction t using DataType.induction generalizing nested j with
  | primitive t ht => exact typeForm_of_isPrimitive ht h
  | record fields ih =>
    obtain ⟨ms, hp, hk⟩ := exists_typeParts? rfl rfl h
    obtain ⟨_, hfields, hadds⟩ := hk "fields" (.array (encodeFields fields)) rfl
    obtain ⟨items, rfl, hitems⟩ := hadds.exists_array
    exact .struct hp hfields (fieldForms_of_addsMembers (fun f hf => ih f hf) hitems)
  | array element ih =>
    obtain ⟨ms, hp, hk⟩ := exists_typeParts? rfl rfl h
    obtain ⟨e, he, hadds⟩ := hk "element" (encodeType element) rfl
    exact .array hp he (ih hadds)
  | map key value ihk ihv =>
    obtain ⟨ms, hp, hk⟩ := exists_typeParts? rfl rfl h
    obtain ⟨k, hkey, hkadds⟩ := hk "key" (encodeType key) rfl
    obtain ⟨v, hvalue, hvadds⟩ := hk "value" (encodeType value) rfl
    exact .map hp hkey (ihk hkadds) hvalue (ihv hvadds)

/-- **Additional members do not change what a type is read as.** -/
theorem decodeType_of_addsMembers {nested : Bool} {t : DataType} {j : Json} (ht : t.WellFormed)
    (h : AddsMembers (encodeType t) j) : decodeType nested j = .ok t :=
  decodeType_eq_ok_iff.2 ⟨typeForm_of_addsMembers h, ht⟩

/-- **Additional members do not change what a record is read as.** -/
theorem decodeRecord_of_addsMembers {r : Record} {j : Json} (hr : r.toType.WellFormed)
    (h : AddsMembers (encodeRecord r) j) : decodeRecord j = .ok r := by
  obtain ⟨ms, rfl, hk⟩ := h.exists_object
  obtain ⟨_, hfields, hadds⟩ := hk "fields" (.array (encodeFields r.fields)) rfl
  obtain ⟨items, rfl, hitems⟩ := hadds.exists_array
  have hforms : FieldForms false items r.fields :=
    fieldForms_of_addsMembers (fun _ _ => typeForm_of_addsMembers) hitems
  exact decodeRecord_eq_ok_iff.2 ⟨⟨ms, items, rfl, hfields, hforms⟩, hr⟩

end SchemaBridge.Wire
