import SchemaBridge.Wire.Mismatch

/-!
# Variants in JSON

A value of a type with several variants is the name of a variant, or an object whose one member has
that name and holds what the variant carries.
-/

namespace SchemaBridge.Wire

/-- A variant and what it carries, if it is written with a content. -/
def variant? : Json → Option (String × Option Json)
  | .string name => some (name, none)
  | .object [(name, content)] => some (name, some content)
  | _ => none

/-- A variant that carries nothing. -/
def unit {α : Type} (value : α) : Option Json → Except Mismatch α
  | none => .ok value
  | some .null => .ok value
  | some _ => .error .shape

/-- A variant that carries members. -/
def members {α : Type} (decode : List (String × Json) → Except Mismatch α) :
    Option Json → Except Mismatch α
  | some (.object ms) => decode ms
  | _ => .error .shape

/-- A variant that carries one value. -/
def single {α : Type} (decode : Json → Except Mismatch α) : Option Json → Except Mismatch α
  | some content => decode content
  | none => .error .shape

end SchemaBridge.Wire
