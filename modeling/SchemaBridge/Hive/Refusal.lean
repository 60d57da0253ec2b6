import SchemaBridge.Error

/-!
# Refusals of Hive texts

Why reading a sequence of lexemes stops. A text is malformed when a lexeme comes that cannot come there;
it is refused with another error when what it says so far is not supported or not valid.
-/

namespace SchemaBridge.Hive

/-- What may come next. -/
inductive Expected where
  | typeName
  | fieldName
  | number
  | langle
  | rangle
  | lparen
  | rparen
  | comma
  | colon
deriving DecidableEq, Repr

/-- Why a sequence of lexemes is not a type. -/
inductive ReadReason where
  | tooDeep
  | expected (what : Expected)
  /-- A word stands where a number of 32 bits should. -/
  | notNumber (word : String)
  | unknownType (word : String)
  | trailing
deriving DecidableEq, Repr

def Expected.text : Expected → String
  | .typeName => "a type name"
  | .fieldName => "a field name"
  | .number => "a number"
  | .langle => "'<'"
  | .rangle => "'>'"
  | .lparen => "'('"
  | .rparen => "')'"
  | .comma => "','"
  | .colon => "':'"

/-- Names and numbers that are missing at the end are described as elsewhere. -/
def Expected.endText : Expected → String
  | .fieldName => ""
  | .number => ""
  | _ => ", found end of input"

/-- The wording of a reason; `atEnd` when no lexeme was left. -/
def ReadReason.message (atEnd : Bool) : ReadReason → String
  | .tooDeep => "type nesting too deep"
  | .expected what => "expected " ++ what.text ++ if atEnd then what.endText else ""
  | .notNumber word => "expected a number, found '" ++ word ++ "'"
  | .unknownType word => "unknown type '" ++ word ++ "'"
  | .trailing => "unexpected trailing input"

/-- Why reading stops: the text is not in the language, or it says what is not supported. -/
inductive Refusal where
  | malformed (reason : ReadReason)
  | refused (error : SchemaError)
deriving DecidableEq, Repr

def Refusal.expected (what : Expected) : Refusal := .malformed (.expected what)

end SchemaBridge.Hive
