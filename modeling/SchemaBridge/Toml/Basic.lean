/-!
# TOML values

The values of a TOML document. Numbers with a fraction or an exponent, and dates and times, are kept
by their spelling.
-/

namespace SchemaBridge

inductive Toml where
  | string (text : String)
  | integer (value : Int)
  | float (spelling : String)
  | bool (value : Bool)
  | datetime (spelling : String)
  | array (items : List Toml)
  | table (members : List (String × Toml))
deriving Repr

/-- The members of a table; nothing for other values. -/
def Toml.members : Toml → List (String × Toml)
  | table members => members
  | _ => []

end SchemaBridge
