import SchemaBridge.DataType.Basic

/-!
# Records

A `Record` is an ordered list of fields with present and distinct names. `Record.ofFields` checks a
list of fields and blames the first name that breaks the rule; `Record.flaw?_eq_none_iff` says that it
finds no flaw exactly in the lists with valid names.
-/

namespace SchemaBridge

/-- Ordered fields whose names are present and distinct. -/
structure Record where
  fields : List Field
  valid : DataType.ValidNames (fields.map Member.name)
deriving DecidableEq

namespace Record

/-- What keeps a list of fields from being a record. -/
inductive Flaw where
  | noFields
  | unnamed
  | duplicate (name : String)
deriving DecidableEq, Repr

def Flaw.message : Flaw → String
  | .noFields => "a record needs at least one field"
  | .unnamed => "field names must not be empty"
  | .duplicate name => "duplicate field name '" ++ name ++ "'"

/-- The first name that is empty, or that is among `seen` or the names before it. -/
def nameFlaw? (seen : List String) : List Field → Option Flaw
  | [] => none
  | field :: fields =>
    if field.name = "" then some .unnamed
    else if field.name ∈ seen then some (.duplicate field.name)
    else nameFlaw? (field.name :: seen) fields

/-- The first flaw of a list of fields. -/
def flaw? : List Field → Option Flaw
  | [] => some .noFields
  | fields => nameFlaw? [] fields

theorem nameFlaw?_eq_none_iff {seen : List String} {fields : List Field} :
    nameFlaw? seen fields = none ↔
      "" ∉ fields.map Member.name ∧ (fields.map Member.name).Nodup ∧
        ∀ n ∈ fields.map Member.name, n ∉ seen := by
  induction fields generalizing seen with
  | nil => simp [nameFlaw?]
  | cons field fields ih =>
    by_cases hn : field.name = ""
    · simp [nameFlaw?, hn]
    · by_cases hs : field.name ∈ seen
      · simp [nameFlaw?, hn, hs]
      · simp only [nameFlaw?, hn, hs, if_false, ih]
        simp only [List.map_cons, List.mem_cons, List.nodup_cons, not_or, forall_eq_or_imp]
        constructor
        · rintro ⟨h1, h2, h3⟩
          exact ⟨⟨fun h => hn h.symm, h1⟩, ⟨fun h => (h3 _ h).1 rfl, h2⟩, hs,
            fun n hm => (h3 n hm).2⟩
        · rintro ⟨⟨_, h1⟩, ⟨h2, h3⟩, _, h4⟩
          exact ⟨h1, h3, fun n hm => ⟨fun h => h2 (h ▸ hm), h4 n hm⟩⟩

theorem flaw?_eq_none_iff {fields : List Field} :
    flaw? fields = none ↔ DataType.ValidNames (fields.map Member.name) := by
  cases fields with
  | nil => exact ⟨fun h => by simp [flaw?] at h, fun h => absurd rfl h.ne_nil⟩
  | cons field fields =>
    rw [flaw?, nameFlaw?_eq_none_iff]
    · exact ⟨fun h => ⟨by simp, h.1, h.2.1⟩, fun h => ⟨h.named, h.nodup, by simp⟩⟩
    · simp

/-- The record of these fields, in their order. -/
def ofFields (fields : List Field) : Except SchemaError Record :=
  match h : flaw? fields with
  | none => .ok ⟨fields, flaw?_eq_none_iff.1 h⟩
  | some flaw => .error (.invalidParameters "struct" flaw.message)

/-- The field of that name. -/
def field? (r : Record) (name : String) : Option Field :=
  r.fields.find? (·.name == name)

/-- A record as a type. -/
def toType (r : Record) : DataType := .record r.fields

end Record

/-- The record type of these fields. -/
def DataType.mkRecord (fields : List Field) : Except SchemaError DataType :=
  (Record.ofFields fields).map Record.toType

end SchemaBridge
