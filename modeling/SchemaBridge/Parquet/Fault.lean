import SchemaBridge.Error
import SchemaBridge.Parquet.Check

/-!
# Faults of Parquet schemas

Why a schema text or a described node is refused.
-/

namespace SchemaBridge.Parquet

/-- The kinds of words that a schema uses. -/
inductive WordKind where
  | repetition
  | type
  | convertedType
  | logicalType
deriving DecidableEq, Repr

inductive Fault where
  /-- The text does not begin as a schema does. -/
  | header
  /-- Another token was expected than the one found, if one was. -/
  | expected (token : String) (found : Option String)
  /-- The text ends where something else was expected. -/
  | missing (what : String)
  /-- The text ends where the type of a field was expected. -/
  | missingType
  /-- The text ends where a parameter was expected. -/
  | missingParameter (what : String)
  | unreadable (what : String)
  | unknownWord (kind : WordKind) (word : String)
  | intervalLogical
  | integerWidth (bitWidth : Int8) (physical : Physical)
  | integerStorage (physical : Physical)
  | defect (d : Defect)
deriving DecidableEq, Repr

def WordKind.text : WordKind → String
  | .repetition => "repetition"
  | .type => "type"
  | .convertedType => "converted type"
  | .logicalType => "logical type"

def Fault.message : Fault → String
  | .header => "Message type does not start with 'message'"
  | .expected token (some found) => "Expected '" ++ token ++ "', found token '" ++ found ++ "'"
  | .expected token none => "Expected '" ++ token ++ "', but no token found (None)"
  | .missing what => "Expected " ++ what ++ ", found None"
  | .missingType => "Invalid type, could not extract next token"
  | .missingParameter what => "Invalid " ++ what ++ " found"
  | .unreadable what => "Failed to parse " ++ what
  | .unknownWord kind word => "Invalid parquet " ++ kind.text ++ " " ++ word
  | .intervalLogical => "Interval parquet logical type not yet supported"
  | .integerWidth w physical => "Incorrect bit width " ++ toString w ++ " for " ++ physical.word
  | .integerStorage physical =>
    "Logical type Integer cannot be used with physical type " ++ physical.word
  | .defect d => d.message

/-- A fault as an error about the source schema. -/
def Fault.error (fault : Fault) : SchemaError := .sourceSchema ("Parquet error: " ++ fault.message)

/-- A primitive node whose checks have passed. -/
def mkPrimitive (info : Info) (storage : Storage) : Except Fault Node :=
  match checkPrimitive info storage with
  | .ok () => .ok (.primitive info storage)
  | .error d => .error (.defect d)

end SchemaBridge.Parquet
