import Mathlib.Data.List.Nodup
import Mathlib.Order.Nat
import SchemaBridge.Proofs.DataType.WellFormed

/-!
# Building records and looking up fields

A place in a list of names breaks the rule of records (`Breaks`) if its name is empty or stands at an earlier
place too. Names without such a place are present and distinct (`not_breaks_iff`). `Record.ofFields` blames
the first place that breaks the rule: the scan passes the fields before it (`nameFlaw?_append`) and stops
there (`flaw?_eq_of_isLeast`). In a record a name belongs to one field, so a look-up finds that one
(`field?_eq_some_iff`). `ofFields_exact` puts these together.
-/

namespace SchemaBridge.Record

variable {names seen : List String} {fields before after : List Field} {field : Field} {name : String} {i : Nat}

/-! ## Places that break the rule -/

/-- The name at this place is empty, or it stands at an earlier place too. -/
def Breaks (names : List String) (i : Nat) : Prop :=
  ∃ name ∈ names[i]?, name = "" ∨ ∃ j < i, names[j]? = some name

instance : Decidable (Breaks names i) :=
  inferInstanceAs (Decidable (∃ name ∈ names[i]?, name = "" ∨ ∃ j < i, names[j]? = some name))

theorem not_breaks_iff : (∀ i, ¬Breaks names i) ↔ "" ∉ names ∧ names.Nodup := by
  refine ⟨fun h => ⟨?_, ?_⟩, fun ⟨hnamed, hnodup⟩ => ?_⟩
  · intro hempty
    obtain ⟨i, hi⟩ := List.mem_iff_getElem?.1 hempty
    exact h i ⟨"", hi, .inl rfl⟩
  · rw [List.nodup_iff_getElem?_ne_getElem?]
    intro i j hij hj heq
    have hname : names[j]? = some names[j] := List.getElem?_eq_getElem hj
    exact h j ⟨names[j], hname, .inr ⟨i, hij, heq.trans hname⟩⟩
  · rintro i ⟨name, hi, rfl | ⟨j, hji, hj⟩⟩
    · exact hnamed (List.mem_of_getElem? hi)
    · have hlt : i < names.length := (List.getElem?_eq_some_iff.1 hi).1
      exact List.nodup_iff_getElem?_ne_getElem?.1 hnodup j i hji hlt (hj.trans hi.symm)

/-- Whether a place breaks the rule is settled by the names up to it. -/
theorem Breaks.append {rest : List String} (h : Breaks names i) : Breaks (names ++ rest) i := by
  obtain ⟨name, hi, hbad⟩ := h
  have hput : ∀ {j : Nat} {n : String}, names[j]? = some n → (names ++ rest)[j]? = some n := by
    intro j n hj
    rw [List.getElem?_append_left (List.getElem?_eq_some_iff.1 hj).1, hj]
  refine ⟨name, hput hi, ?_⟩
  rcases hbad with rfl | ⟨j, hji, hj⟩
  · exact .inl rfl
  · exact .inr ⟨j, hji, hput hj⟩

theorem Breaks.lt_length (h : Breaks names i) : i < names.length := by
  obtain ⟨name, hi, -⟩ := h
  exact (List.getElem?_eq_some_iff.1 hi).1

/-- The name behind these breaks the rule only if it is empty or one of them. -/
theorem Breaks.of_length {rest : List String} (h : Breaks (names ++ name :: rest) names.length) :
    name = "" ∨ name ∈ names := by
  obtain ⟨n, hn, hbad⟩ := h
  obtain rfl : name = n := by simpa using hn
  rcases hbad with hempty | ⟨j, hj, hearlier⟩
  · exact .inl hempty
  · rw [List.getElem?_append_left hj] at hearlier
    exact .inr (List.mem_of_getElem? hearlier)

theorem isLeast_breaks (h : Breaks names i) (hbefore : ∀ j < i, ¬Breaks names j) :
    IsLeast {i | Breaks names i} i := by
  refine ⟨h, fun j hj => ?_⟩
  by_contra hlt
  exact hbefore j (Nat.lt_of_not_le hlt) hj

/-- Names that break the rule somewhere do so at a first place. -/
theorem exists_isLeast_breaks (h : ¬("" ∉ names ∧ names.Nodup)) :
    ∃ i name, IsLeast {i | Breaks names i} i ∧ names[i]? = some name := by
  have hex : ∃ i, Breaks names i := by
    by_contra hno
    exact h (not_breaks_iff.1 fun i hi => hno ⟨i, hi⟩)
  obtain ⟨name, hname, -⟩ := Nat.find_spec hex
  exact ⟨Nat.find hex, name, Nat.isLeast_find hex, hname⟩

/-! ## The scan -/

/-- What is wrong with a name that breaks the rule. -/
def Flaw.ofName (name : String) : Flaw :=
  if name = "" then .unnamed else .duplicate name

theorem Flaw.message_ofName (name : String) :
    (Flaw.ofName name).message =
      if name = "" then "field names must not be empty" else "duplicate field name '" ++ name ++ "'" := by
  unfold Flaw.ofName
  split <;> rfl

theorem nameFlaw?_nil_eq_none_iff :
    nameFlaw? [] fields = none ↔ ∀ j, ¬Breaks (fields.map Member.name) j := by
  rw [not_breaks_iff, nameFlaw?_eq_none_iff]
  simp only [List.not_mem_nil, not_false_iff, implies_true, and_true]

/-- The scan goes on behind fields without a flaw, with their names seen. -/
theorem nameFlaw?_append (h : nameFlaw? seen before = none) :
    nameFlaw? seen (before ++ after) = nameFlaw? ((before.map Member.name).reverse ++ seen) after := by
  induction before generalizing seen with
  | nil => rfl
  | cons field before ih =>
    by_cases hempty : field.name = ""
    · simp [nameFlaw?, hempty] at h
    by_cases hseen : field.name ∈ seen
    · simp [nameFlaw?, hempty, hseen] at h
    · simp only [nameFlaw?, hempty, hseen, if_false] at h
      simp [nameFlaw?, hempty, hseen, ih h]

/-- The scan stops at a name that is empty or has been seen. -/
theorem nameFlaw?_cons (h : field.name = "" ∨ field.name ∈ seen) :
    nameFlaw? seen (field :: after) = some (Flaw.ofName field.name) := by
  unfold nameFlaw? Flaw.ofName
  by_cases hempty : field.name = ""
  · simp only [hempty, if_true]
  · simp only [hempty, h.resolve_left hempty, if_false, if_true]

theorem exists_split_at_name (h : (fields.map Member.name)[i]? = some name) :
    ∃ before field after, fields = before ++ field :: after ∧ before.length = i ∧ field.name = name := by
  rw [List.getElem?_map, Option.map_eq_some_iff] at h
  obtain ⟨field, hfield, hname⟩ := h
  obtain ⟨hlt, rfl⟩ := List.getElem?_eq_some_iff.1 hfield
  refine ⟨fields.take i, fields[i], fields.drop (i + 1), ?_, List.length_take_of_le hlt.le, hname⟩
  rw [List.getElem_cons_drop, List.take_append_drop]

/-- The first place that breaks the rule is the flaw of a list of fields. -/
theorem flaw?_eq_of_isLeast (hleast : IsLeast {i | Breaks (fields.map Member.name) i} i)
    (hname : (fields.map Member.name)[i]? = some name) : flaw? fields = some (Flaw.ofName name) := by
  obtain ⟨before, field, after, rfl, rfl, rfl⟩ := exists_split_at_name hname
  rw [List.map_append, List.map_cons, ← List.length_map (f := Member.name)] at hleast
  obtain ⟨hbreaks, hfirst⟩ := hleast
  -- no place of the fields before breaks the rule, so the scan passes them
  have hbefore : nameFlaw? [] before = none := by
    rw [nameFlaw?_nil_eq_none_iff]
    intro j hj
    have hle : (before.map Member.name).length ≤ j := hfirst hj.append
    have hlt := hj.lt_length
    omega
  have hseen : field.name = "" ∨ field.name ∈ (before.map Member.name).reverse ++ [] := by
    simpa using hbreaks.of_length
  have hscan : flaw? (before ++ field :: after) = nameFlaw? [] (before ++ field :: after) := by
    cases before <;> rfl
  rw [hscan, nameFlaw?_append hbefore, nameFlaw?_cons hseen]

theorem flaw?_eq_some_iff {flaw : Flaw} :
    flaw? fields = some flaw ↔
      fields = [] ∧ flaw = .noFields ∨
        ∃ i name, IsLeast {i | Breaks (fields.map Member.name) i} i ∧
          (fields.map Member.name)[i]? = some name ∧ flaw = Flaw.ofName name := by
  constructor
  · intro h
    by_cases hnil : fields = []
    · subst hnil
      exact .inl ⟨rfl, (Option.some.inj h).symm⟩
    · have hbad : ¬("" ∉ fields.map Member.name ∧ (fields.map Member.name).Nodup) := by
        rintro ⟨hnamed, hnodup⟩
        rw [flaw?_eq_none_iff.2 ⟨by simpa using hnil, hnamed, hnodup⟩] at h
        cases h
      obtain ⟨i, name, hleast, hname⟩ := exists_isLeast_breaks hbad
      rw [flaw?_eq_of_isLeast hleast hname] at h
      exact .inr ⟨i, name, hleast, hname, (Option.some.inj h).symm⟩
  · rintro (⟨rfl, rfl⟩ | ⟨i, name, hleast, hname, rfl⟩)
    · rfl
    · exact flaw?_eq_of_isLeast hleast hname

/-! ## Looking up fields -/

/-- A name belongs to one field of a record at most. -/
theorem eq_of_name_eq (r : Record) {f g : Field} (hf : f ∈ r.fields) (hg : g ∈ r.fields)
    (h : f.name = g.name) : f = g :=
  List.inj_on_of_nodup_map r.valid.nodup hf hg h

theorem field?_eq_some_iff (r : Record) {f : Field} :
    r.field? name = some f ↔ f ∈ r.fields ∧ f.name = name := by
  unfold field?
  constructor
  · intro h
    exact ⟨List.mem_of_find?_eq_some h, by simpa using List.find?_some h⟩
  · rintro ⟨hf, rfl⟩
    cases h : r.fields.find? (·.name == f.name) with
    | none =>
      have hmiss := List.find?_eq_none.1 h f hf
      simp at hmiss
    | some g =>
      have hg : g.name = f.name := by simpa using List.find?_some h
      rw [r.eq_of_name_eq (List.mem_of_find?_eq_some h) hf hg]

/-! ## Fields in, record or error out -/

theorem validNames_iff :
    DataType.ValidNames (fields.map Member.name) ↔
      fields ≠ [] ∧ (∀ f ∈ fields, f.name ≠ "") ∧ fields.Pairwise fun f g => f.name ≠ g.name := by
  have hnamed : "" ∉ fields.map Member.name ↔ ∀ f ∈ fields, f.name ≠ "" := by simp
  have hnodup : (fields.map Member.name).Nodup ↔ fields.Pairwise fun f g => f.name ≠ g.name :=
    List.pairwise_map
  rw [← hnamed, ← hnodup]
  constructor
  · intro h
    exact ⟨by simpa using h.ne_nil, h.named, h.nodup⟩
  · rintro ⟨hnil, hnamed, hnodup⟩
    exact ⟨by simpa using hnil, hnamed, hnodup⟩

theorem exists_ofFields_iff :
    (∃ r, ofFields fields = .ok r) ↔ DataType.ValidNames (fields.map Member.name) := by
  constructor
  · rintro ⟨r, h⟩
    obtain rfl := ofFields_eq_ok_iff.1 h
    exact r.valid
  · intro h
    exact ⟨⟨fields, h⟩, ofFields_eq_ok_iff.2 rfl⟩

/-- **Fields make a record exactly if there is one and their names are present and distinct.** The record has
these fields in this order, and a look-up in it finds the one field of a name. Any other list is refused, for
having no fields or for the first place at which a name is empty or stands a second time. -/
theorem ofFields_exact (fields : List Field) :
    ((∃ r, ofFields fields = .ok r) ↔
      fields ≠ [] ∧ (∀ f ∈ fields, f.name ≠ "") ∧ fields.Pairwise fun f g => f.name ≠ g.name) ∧
    (∀ r, ofFields fields = .ok r → r.fields = fields ∧
      (∀ name f, r.field? name = some f ↔ f ∈ fields ∧ f.name = name) ∧
      ∀ f ∈ fields, r.field? f.name = some f) ∧
    ∀ e, ofFields fields = .error e ↔
      fields = [] ∧ e = .invalidParameters "struct" "a record needs at least one field" ∨
        ∃ i name, IsLeast {i | Breaks (fields.map Member.name) i} i ∧
          (fields.map Member.name)[i]? = some name ∧
          e = .invalidParameters "struct"
            (if name = "" then "field names must not be empty"
              else "duplicate field name '" ++ name ++ "'") := by
  refine ⟨exists_ofFields_iff.trans validNames_iff, fun r h => ?_, fun e => ?_⟩
  · obtain rfl := ofFields_eq_ok_iff.1 h
    exact ⟨rfl, fun name f => r.field?_eq_some_iff, fun f hf => r.field?_eq_some_iff.2 ⟨hf, rfl⟩⟩
  · rw [ofFields_eq_error_iff]
    constructor
    · rintro ⟨flaw, hflaw, rfl⟩
      rcases flaw?_eq_some_iff.1 hflaw with ⟨hnil, rfl⟩ | ⟨i, name, hleast, hname, rfl⟩
      · exact .inl ⟨hnil, rfl⟩
      · exact .inr ⟨i, name, hleast, hname, by rw [Flaw.message_ofName]⟩
    · rintro (⟨hnil, rfl⟩ | ⟨i, name, hleast, hname, rfl⟩)
      · exact ⟨.noFields, flaw?_eq_some_iff.2 (.inl ⟨hnil, rfl⟩), rfl⟩
      · refine ⟨Flaw.ofName name, flaw?_eq_some_iff.2 (.inr ⟨i, name, hleast, hname, rfl⟩), ?_⟩
        rw [Flaw.message_ofName]

/-- Names that differ by case only. -/
def casedFields : List Field :=
  [⟨"id", .int64, false⟩, ⟨"ID", .array .string, true⟩, ⟨"Id", .date, true⟩]

/-- A name stands a second time, then one is missing, then another stands a second time. -/
def tangledFields : List Field :=
  [⟨"a", .int8, false⟩, ⟨"b", .string, true⟩, ⟨"a", .date, true⟩, ⟨"", .int8, false⟩, ⟨"b", .string, true⟩]

theorem ofFields_casedFields_and_tangledFields :
    (∃ r, ofFields casedFields = .ok r ∧ r.fields = casedFields ∧
      r.field? "ID" = some ⟨"ID", .array .string, true⟩ ∧ ∀ f, r.field? "iD" ≠ some f) ∧
    ofFields tangledFields = .error (.invalidParameters "struct" "duplicate field name 'a'") ∧
    ofFields (tangledFields.drop 1) =
      .error (.invalidParameters "struct" "field names must not be empty") := by
  obtain ⟨hbuilt, hkept, -⟩ := ofFields_exact casedFields
  obtain ⟨r, hr⟩ := hbuilt.2 (by decide)
  obtain ⟨hfields, hfield, hfound⟩ := hkept r hr
  have hID : (⟨"ID", .array .string, true⟩ : Field) ∈ casedFields := by decide
  have hiD : ∀ f ∈ casedFields, f.name ≠ "iD" := by decide
  refine ⟨⟨r, hr, hfields, hfound _ hID, fun f hf => ?_⟩, ?_, ?_⟩
  · obtain ⟨hmem, hname⟩ := (hfield "iD" f).1 hf
    exact hiD f hmem hname
  · have hleast : IsLeast {i | Breaks (tangledFields.map Member.name) i} 2 :=
      isLeast_breaks (by decide) (by decide)
    exact ((ofFields_exact tangledFields).2.2 _).2 (.inr ⟨2, "a", hleast, rfl, rfl⟩)
  · have hleast : IsLeast {i | Breaks ((tangledFields.drop 1).map Member.name) i} 2 :=
      isLeast_breaks (by decide) (by decide)
    exact ((ofFields_exact (tangledFields.drop 1)).2.2 _).2 (.inr ⟨2, "", hleast, rfl, rfl⟩)

end SchemaBridge.Record
