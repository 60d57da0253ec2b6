/-!
# Schema errors

`SchemaError` lists the ways in which a conversion fails. An error about an unsupported type carries
the dotted path of the member to blame; `SchemaError.within` puts one more segment in front of it
and leaves every other error as it is.
-/

namespace SchemaBridge

/-- Failures of reading or writing the settings. -/
inductive ConfigError where
  | load (sourceName reason : String)
  | render (reason : String)
deriving DecidableEq, Repr

/-- The failures of a conversion. -/
inductive SchemaError where
  /-- A data type was built from attributes that it does not admit. -/
  | invalidParameters (typeName reason : String)
  /-- A source type has no counterpart. -/
  | unsupportedSource (physical refinement path : String)
  /-- A data type has no spelling in the target dialect. -/
  | unsupportedTarget (typeName dialect reason path : String)
  /-- A type text is not in the language; `position` counts bytes of UTF-8. -/
  | malformed (input : String) (position : Nat) (reason : String)
  /-- A source schema text was refused. -/
  | sourceSchema (reason : String)
  | config (error : ConfigError)
deriving DecidableEq, Repr

/-- Puts a segment in front of a path; a segment alone carries no dot. -/
def joinPath (segment rest : String) : String :=
  if rest = "" then segment else segment ++ "." ++ rest

/-- The text of a path in a message: nothing for the root. -/
def pathSuffix (path : String) : String :=
  if path = "" then "" else " at '" ++ path ++ "'"

def ConfigError.message : ConfigError → String
  | .load sourceName reason =>
    "Failed to load configuration from " ++ sourceName ++ ": " ++ reason
  | .render reason => "TOML rendering error: " ++ reason

namespace SchemaError

/-- The wording of an error. -/
def message : SchemaError → String
  | .invalidParameters typeName reason => "Invalid type parameters for " ++ typeName ++ ": " ++ reason
  | .unsupportedSource physical refinement path =>
    "Unsupported source type: " ++ physical ++ " annotated " ++ refinement ++ pathSuffix path
  | .unsupportedTarget typeName dialect reason path =>
    "Unsupported target type: " ++ typeName ++ " cannot be rendered as " ++ dialect ++
      " (" ++ reason ++ ")" ++ pathSuffix path
  | .malformed input position reason =>
    "Malformed type string '" ++ input ++ "' at position " ++ toString position ++ ": " ++ reason
  | .sourceSchema reason => "Source schema error: " ++ reason
  | .config error => "Configuration error: " ++ error.message

/-- The same error seen from the member `segment` that encloses it. -/
def within (segment : String) : SchemaError → SchemaError
  | .unsupportedSource physical refinement path =>
    .unsupportedSource physical refinement (joinPath segment path)
  | .unsupportedTarget typeName dialect reason path =>
    .unsupportedTarget typeName dialect reason (joinPath segment path)
  | e => e

/-- The path of an error about an unsupported type. -/
def path? : SchemaError → Option String
  | .unsupportedSource _ _ path => some path
  | .unsupportedTarget _ _ _ path => some path
  | _ => none

def isUnsupportedSource : SchemaError → Bool
  | .unsupportedSource .. => true
  | _ => false

def isUnsupportedTarget : SchemaError → Bool
  | .unsupportedTarget .. => true
  | _ => false

def isInvalidParameters : SchemaError → Bool
  | .invalidParameters .. => true
  | _ => false

end SchemaError

/-- Runs a conversion on behalf of the member `segment`. -/
def within {α : Type} (segment : String) (r : Except SchemaError α) : Except SchemaError α :=
  r.mapError (SchemaError.within segment)

end SchemaBridge
