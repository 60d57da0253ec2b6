import SchemaBridge.Hive.State

/-!
# Reading Hive types

`readType` and `readMembers` read whole texts: the text is cut into tokens, and `State.run` reads their
lexemes once, from left to right. A fault is reported at the token that was refused, or at the end of
the text.
-/

namespace SchemaBridge.Hive

/-- A refusal, and how many lexemes were left at that point, the refused one included. -/
structure ReadFault where
  refusal : Refusal
  left : Nat
deriving DecidableEq, Repr

/-- Reads lexemes to the end. -/
def State.run {g : Goal} (s : State g) : List Lexeme → Except ReadFault g.Result
  | [] => s.finish.mapError fun reason => ⟨.malformed reason, 0⟩
  | l :: ls =>
    match s.step l with
    | .ok next => next.run ls
    | .error refusal => .error ⟨refusal, ls.length + 1⟩

/-- The byte offset of the token with `left` tokens from it on, or of the end of the text. -/
def positionAt (text : String) (tokens : List Token) (left : Nat) : Nat :=
  match tokens.drop (tokens.length - left) with
  | [] => text.utf8ByteSize
  | token :: _ => token.position

/-- A fault as an error about the text. -/
def ReadFault.error (text : String) (tokens : List Token) (fault : ReadFault) : SchemaError :=
  match fault.refusal with
  | .malformed reason =>
    .malformed text (positionAt text tokens fault.left) (reason.message (fault.left = 0))
  | .refused e => e

/-- The tokens of a text, or the error about it. -/
def tokensOf (text : String) : Except SchemaError (List Token) :=
  (scan text.toList).mapError fun fault => .malformed text fault.position fault.reason.message

/-- Reads a text from a state that its lexemes determine. -/
def readFrom {g : Goal} (start : List Lexeme → State g × List Lexeme) (text : String) :
    Except SchemaError g.Result :=
  match tokensOf text with
  | .error e => .error e
  | .ok tokens =>
    let (s, lexemes) := start (tokens.map Token.lexeme)
    (s.run lexemes).mapError (ReadFault.error text tokens)

/-- The type that a text spells. -/
def readType (text : String) : Except SchemaError DataType :=
  readFrom (fun lexemes => (.type .whole, lexemes)) text

/-- Where the members of a text start: after `struct<` if the text begins with it. -/
def membersStart : List Lexeme → State .members × List Lexeme
  | .word w :: .langle :: rest =>
    if w.toLower = "struct" then (.name .wrapped [], rest)
    else (.name .bare [], .word w :: .langle :: rest)
  | lexemes => (.name .bare [], lexemes)

/-- The members that a text lists, with or without the brackets of a record type. -/
def readMembers (text : String) : Except SchemaError (List MemberType) :=
  readFrom membersStart text

end SchemaBridge.Hive
