import SchemaBridge.Hive.Token

/-!
# Spelling of Hive types

The pieces from which Hive type texts are put together: scalar names, parameter lists, bracketed
element lists and member names. A member name is written as it is when it reads as one word, and in
back-quotes otherwise.
-/

namespace SchemaBridge.Hive

/-- Texts with commas between them. -/
def commaList : List String → String
  | [] => ""
  | [text] => text
  | text :: texts => text ++ "," ++ commaList texts

/-- Whether a name reads as one word. -/
def isPlainName (name : String) : Bool :=
  !name.isEmpty && name.toList.all isWordChar

/-- A quoted name's characters, each back-quote written twice. -/
def doubleQuotes (cs : List Char) : List Char :=
  cs.flatMap fun c => if c = quote then [quote, quote] else [c]

/-- A member name as it is written in a type text. -/
def spellName (name : String) : String :=
  if isPlainName name then name
  else String.ofList (quote :: (doubleQuotes name.toList ++ [quote]))

def spellDecimal (precision scale : UInt32) : String :=
  "decimal(" ++ toString precision ++ "," ++ toString scale ++ ")"

def spellChar (size : UInt32) : String := "char(" ++ toString size ++ ")"

def spellVarchar (size : UInt32) : String := "varchar(" ++ toString size ++ ")"

def spellArray (element : String) : String := "array<" ++ element ++ ">"

def spellMap (key value : String) : String := "map<" ++ key ++ "," ++ value ++ ">"

/-- A record type from its member names and the texts of their types. -/
def spellStruct (members : List (String × String)) : String :=
  "struct<" ++ commaList (members.map fun (name, type) => spellName name ++ ":" ++ type) ++ ">"

end SchemaBridge.Hive
