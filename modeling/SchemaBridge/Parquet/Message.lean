import SchemaBridge.Parquet.Fault
import SchemaBridge.Text.Blank
import SchemaBridge.Text.CaseMap
import SchemaBridge.Text.Digits

/-!
# Parquet message text

    message := "message" name fields
    fields  := "{" { field } "}"
    field   := repetition "group" name [ "(" annotation ")" ] [ "=" id ] fields
             | repetition type [ "(" length ")" ] name [ "(" annotation [ parameters ] ")" ]
               [ "=" id ] ";"

`readMessage` reads such a text. Words other than names are read in capitals. The reader stands
between two tokens (`Cursor`); an optional part is recognised by its first token, and the reader steps
back if that is another one. At the end of the text, too, it steps back, so that the last token is
read once more. The closing brace of the last lists may be missing, and what follows the message is
ignored.
-/

namespace SchemaBridge.Parquet

/-! ## Tokens -/

/-- The characters that are tokens of their own. -/
def isMark (c : Char) : Bool := c ∈ [';', '\x7b', '\x7d', '(', ')', '=', ',']

/-- The word that the characters in `read` spell, last first; nothing if there are none. -/
def wordOf : List Char → List String
  | [] => []
  | read => [String.ofList read.reverse]

/-- The tokens of a text, inside a word of which `read` has been read, last character first. -/
def tokensFrom (read : List Char) : List Char → List String
  | [] => wordOf read
  | c :: cs =>
    if Text.isBlank c then wordOf read ++ tokensFrom [] cs
    else if isMark c then wordOf read ++ c.toString :: tokensFrom [] cs
    else tokensFrom (c :: read) cs

/-! ## The cursor -/

/-- A place between two tokens; `before` holds the tokens read, nearest first. -/
structure Cursor where
  before : List String
  after : List String

/-- A reading step, which may fail. -/
abbrev Reader := StateT Cursor (Except Fault)

namespace Reader

/-- The next token. At the end there is none, and the cursor stays. -/
def next? : Reader (Option String) := fun c =>
  match c.after with
  | [] => .ok (none, c)
  | token :: rest => .ok (some token, ⟨token :: c.before, rest⟩)

/-- Steps back over one token. -/
def back : Reader Unit := fun c =>
  match c.before with
  | [] => .ok ((), c)
  | token :: rest => .ok ((), ⟨rest, token :: c.after⟩)

/-- The next token, which must be there. -/
def next (fault : Fault) : Reader String := do
  match ← next? with
  | some token => return token
  | none => throw fault

/-- A token that must come next. -/
def expect (token : String) : Reader Unit := do
  let found ← next?
  if found ≠ some token then throw (.expected token found)

/-- Whether the next token is that one; if not, steps back. -/
def accept (token : String) : Reader Bool := do
  if (← next?) = some token then return true
  back
  return false

/-- A number of 32 bits with an optional sign. -/
def int32 (missing : Fault) (what : String) : Reader Int32 := do
  let token ← next missing
  match Text.intOfText? token with
  | some n =>
    if -2147483648 ≤ n ∧ n ≤ 2147483647 then return Int32.ofInt n else throw (.unreadable what)
  | none => throw (.unreadable what)

/-- A word that is read in capitals. -/
def word (missing : Fault) (kind : WordKind) {α : Type} (ofWord? : String → Option α) :
    Reader α := do
  let capitals := Text.upper (← next missing)
  match ofWord? capitals with
  | some value => return value
  | none => throw (.unknownWord kind capitals)

/-- `true` or `false` in any case. -/
def bool (what : String) : Reader Bool := do
  match Text.lower (← next (.missingParameter "boolean")) with
  | "true" => return true
  | "false" => return false
  | _ => throw (.unreadable what)

/-! ## Annotations -/

/-- The word of an annotation: a logical type if there is one of that name, else a converted
type. -/
def annotationWord (what : String) : Reader (Option Logical × Converted) :=
  word (.missing what) .convertedType fun w =>
    match Logical.ofWord? w with
    | some l => some (some l, l.converted)
    | none => (Converted.ofWord? w).map fun c => (none, c)

/-- The parameters of a decimal: precision and scale. -/
def decimalParameters : Reader (Int32 × Int32) := do
  let precision ← int32 (.missing "precision") "precision for DECIMAL type"
  if (← next?) = some "," then
    let scale ← int32 (.missing "scale") "scale for DECIMAL type"
    expect ")"
    return (precision, scale)
  return (precision, 0)

/-- The parameters of a time, of which `type` is the name. Without a second parameter both are lost,
and the closing parenthesis is left to be read. -/
def timeParameters (type : String) : Reader (Option (Bool × TimeUnit)) := do
  let token ← next (.missingParameter "timeunit")
  match TimeUnit.ofWord? (Text.upper token) with
  | none => throw (.unreadable ("timeunit for " ++ type ++ " type"))
  | some unit =>
    if ← accept "," then
      let utc ← bool ("timezone info for " ++ type ++ " type")
      expect ")"
      return some (utc, unit)
    return none

/-- Whether a physical type holds integers of that width. -/
def checkWidth (physical : Physical) (bitWidth : Int8) : Except Fault Unit :=
  match physical with
  | .int32 =>
    if bitWidth = 8 ∨ bitWidth = 16 ∨ bitWidth = 32 then .ok ()
    else .error (.integerWidth bitWidth .int32)
  | .int64 => if bitWidth = 64 then .ok () else .error (.integerWidth bitWidth .int64)
  | _ => .error (.integerStorage physical)

/-- The parameters of an integer. Without a second parameter both are lost, and the closing
parenthesis is left to be read. -/
def integerParameters (physical : Physical) : Reader (Option (Int8 × Bool)) := do
  let bitWidth := (← int32 (.missingParameter "bit_width") "bit_width for INTEGER type").toInt8
  checkWidth physical bitWidth
  if ← accept "," then
    let signed ← bool "is_signed for INTEGER type"
    expect ")"
    return some (bitWidth, signed)
  return none

/-- A logical type with the parameters that follow it. One token is read in any case where parameters
are possible; if it is no parenthesis, there are none. -/
def parameters (physical : Physical) (l : Logical) : Reader Logical := do
  match l with
  | .decimal scale precision =>
    if (← next?) = some "(" then
      let (precision, scale) ← decimalParameters
      return .decimal scale precision
    return .decimal scale precision
  | .time utc unit =>
    if (← next?) = some "(" then
      let (utc, unit) := (← timeParameters "TIME").getD (utc, unit)
      return .time utc unit
    return l
  | .timestamp utc unit =>
    if (← next?) = some "(" then
      let (utc, unit) := (← timeParameters "TIMESTAMP").getD (utc, unit)
      return .timestamp utc unit
    return l
  | .integer bitWidth signed =>
    if (← next?) = some "(" then
      let (bitWidth, signed) := (← integerParameters physical).getD (bitWidth, signed)
      return .integer bitWidth signed
    return l
  | l => return l

/-- The annotation of a primitive, in parentheses if there is one. -/
def primitiveRefinement (physical : Physical) : Reader (Option Logical × Converted) := do
  if ← accept "(" then
    let (logical, converted) ← annotationWord "logical or converted type"
    match logical with
    | none =>
      expect ")"
      return (none, converted)
    | some l =>
      let l ← parameters physical l
      expect ")"
      return (some l, l.converted)
  return (none, .none)

/-- The annotation of a group, in parentheses if there is one. -/
def groupRefinement : Reader (Option Logical × Converted) := do
  if ← accept "(" then
    let refinement ← annotationWord "converted type"
    expect ")"
    return refinement
  return (none, .none)

/-- The number of a field, which has no meaning here. -/
def skipId : Reader Unit := do
  if ← accept "=" then discard next?

/-! ## Fields -/

/-- The decimal attributes that a node takes from its logical type. -/
def decimalAttributes : Option Logical → Int32 × Int32
  | some (.decimal scale precision) => (precision, scale)
  | _ => (-1, -1)

/-- A primitive from its length on. -/
def primitive (repetition : Source.Repetition) (physical : Physical) : Reader Node := do
  let length ← if physical = .fixedLenByteArray then do
      expect "("
      let length ← int32 (.missing "length for FIXED_LEN_BYTE_ARRAY")
        "length for FIXED_LEN_BYTE_ARRAY"
      expect ")"
      pure length
    else pure (-1)
  let name ← next (.missing "name")
  let (logical, converted) ← primitiveRefinement physical
  skipId
  expect ";"
  let (precision, scale) := decimalAttributes logical
  mkPrimitive ⟨name, some repetition, logical, converted⟩ ⟨physical, length, precision, scale⟩

mutual

/-- A field; `fuel` bounds the steps into the text. -/
def field : Nat → Reader Node
  | 0 => throw .missingType
  | fuel + 1 => do
    let repetition ← word (.missing "repetition") .repetition repetitionOfWord?
    let type := Text.upper (← next .missingType)
    if type = "GROUP" then
      let name ← next (.missing "name")
      let (logical, converted) ← groupRefinement
      skipId
      let fields ← fieldList fuel
      return .group ⟨name, some repetition, logical, converted⟩ fields
    match Physical.ofWord? type with
    | some physical => primitive repetition physical
    | none => throw (.unknownWord .type type)

/-- A list of fields from its opening brace on. -/
def fieldList : Nat → Reader (List Node)
  | 0 => throw .missingType
  | fuel + 1 => do
    expect "\x7b"
    fields fuel

/-- The fields up to a closing brace or the end of the text. -/
def fields : Nat → Reader (List Node)
  | 0 => throw .missingType
  | fuel + 1 => do
    match ← next? with
    | none => return []
    | some "\x7d" => return []
    | some _ =>
      back
      let first ← field fuel
      let rest ← fields fuel
      return first :: rest

end

/-- A message, its name and its fields. -/
def message (fuel : Nat) : Reader Node := do
  if (← next?) ≠ some "message" then throw .header
  let name ← next (.missing "name")
  return .group ⟨name, none, none, .none⟩ (← fieldList fuel)

end Reader

/-- The root of the schema that a text describes. Every field takes at least one token, so that the
number of tokens bounds the steps between two of them. -/
def readMessage (text : String) : Except Fault Node :=
  let tokens := tokensFrom [] text.toList
  ((Reader.message (3 * tokens.length + 3)).run ⟨[], tokens⟩).map (·.1)

end SchemaBridge.Parquet
