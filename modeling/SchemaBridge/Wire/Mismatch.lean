import SchemaBridge.Error
import SchemaBridge.Json.Basic

/-!
# Reading values from JSON

What the decoders of this library share: how a value fails to be read, and the two ways in which
the parts of a structure are written, as the members of an object or as the items of an array in the
order of declaration.
-/

namespace SchemaBridge.Wire

/-- Why a JSON value stands for no value of a type. -/
inductive Mismatch where
  /-- It has the wrong form. -/
  | shape
  /-- It has the right form, but a checked constructor refused it. -/
  | refused (error : SchemaError)
deriving DecidableEq, Repr

/-- A value that must be present and of the right form. -/
def required {α : Type} : Option α → Except Mismatch α
  | some value => .ok value
  | none => .error .shape

/-- The outcome of a checked constructor. -/
def checked {α : Type} (r : Except SchemaError α) : Except Mismatch α := r.mapError .refused

/-- The parts of a structure that has members of these names. An array must hold all of them. -/
def parts? (names : List String) : Json → Option (List (String × Json))
  | .object members => some members
  | .array items => if items.length = names.length then some (names.zip items) else none
  | _ => none

/-- The parts of a structure whose missing members have defaults. An array may be shorter. -/
def optionalParts? (names : List String) : Json → Option (List (String × Json))
  | .object members => some members
  | .array items => if items.length ≤ names.length then some (names.zip items) else none
  | _ => none

/-- The part of that name, decoded. -/
def part {α : Type} (decode : Json → Except Mismatch α) (name : String)
    (parts : List (String × Json)) : Except Mismatch α :=
  match parts.lookup name with
  | some value => decode value
  | none => .error .shape

/-- The part of that name, decoded, or the default. -/
def partD {α : Type} (default : α) (decode : Json → Except Mismatch α) (name : String)
    (parts : List (String × Json)) : Except Mismatch α :=
  match parts.lookup name with
  | some value => decode value
  | none => .ok default

def decodeString (j : Json) : Except Mismatch String := required j.string?

def decodeBool (j : Json) : Except Mismatch Bool := required j.bool?

def decodeUInt32 (j : Json) : Except Mismatch UInt32 := required j.uint32?

/-- A value that may be null. -/
def decodeNullable {α : Type} (decode : Json → Except Mismatch α) : Json → Except Mismatch (Option α)
  | .null => .ok none
  | j => (decode j).map some

/-- A list of values. -/
def decodeList {α : Type} (decode : Json → Except Mismatch α) : Json → Except Mismatch (List α)
  | .array items => items.mapM decode
  | _ => .error .shape

end SchemaBridge.Wire
