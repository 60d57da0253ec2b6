/-!
# JSON values

The values of JSON, and the ways in which decoders look into them. A number without fraction and
exponent is an integer; every other number is kept by its spelling.
-/

namespace SchemaBridge

/-- A JSON number. -/
inductive Json.Number where
  | integer (value : Int)
  | real (spelling : String)
deriving DecidableEq, Repr

/-- A JSON value. The members of an object keep their order. -/
inductive Json where
  | null
  | bool (value : Bool)
  | number (value : Json.Number)
  | string (text : String)
  | array (items : List Json)
  | object (members : List (String × Json))
deriving Repr, Inhabited

namespace Json

/-- A natural number as a value. -/
def nat (n : Nat) : Json := .number (.integer n)

/-- A number of 32 bits as a value. -/
def uint32 (n : UInt32) : Json := nat n.toNat

/-- A text that may be missing. -/
def optString : Option String → Json
  | some text => .string text
  | none => .null

def strings (texts : List String) : Json := .array (texts.map .string)

/-- The member of that name. -/
def get? (key : String) : Json → Option Json
  | object members => members.lookup key
  | _ => none

def string? : Json → Option String
  | string text => some text
  | _ => none

def bool? : Json → Option Bool
  | bool value => some value
  | _ => none

/-- An integer from 0 to `bound`. -/
def nat? (bound : Nat) : Json → Option Nat
  | number (.integer value) => if 0 ≤ value ∧ value ≤ bound then some value.toNat else none
  | _ => none

def uint32? (j : Json) : Option UInt32 := (j.nat? 4294967295).map Nat.toUInt32

end Json

end SchemaBridge
