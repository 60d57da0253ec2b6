import SchemaBridge.Hive.Context
import SchemaBridge.Hive.Keyword
import SchemaBridge.Hive.Refusal
import SchemaBridge.Hive.Token
import SchemaBridge.Text.Digits

/-!
# Reading one lexeme

    type    := plain | "double" [ "precision" ] | decimal | sized | array | map | struct
    decimal := ( "decimal" | "numeric" ) [ "(" number [ "," number ] ")" ]
    sized   := ( "char" | "varchar" ) "(" number ")"
    array   := "array" "<" type ">"
    map     := "map" "<" type "," type ">"
    struct  := "struct" "<" members ">"
    members := member { "," member }
    member  := (word | quoted) ":" type

A `State` says what has been read of a text and what may come next. `State.step` reads one lexeme and
`State.finish` reads the end of the text. No state looks further than one lexeme ahead, so a step either
goes on or says at once why it cannot.
-/

namespace SchemaBridge.Hive

/-- What may still follow a type and belong to it. -/
inductive Extension where
  | none
  /-- The second word of a 64-bit float. -/
  | precisionWord
  /-- The word that makes a timestamp one with a time zone. -/
  | withWord
  /-- Precision and scale of a decimal. -/
  | parameters
deriving DecidableEq, Repr

/-- What has been read. -/
inductive State : Goal → Type where
  /-- A type starts here. -/
  | type {g : Goal} (ctx : Context g) : State g
  /-- A constructor has been named. -/
  | opening {g : Goal} (kind : Composite) (ctx : Context g) : State g
  /-- A member starts here. -/
  | name {g : Goal} (list : ListContext g) (done : List MemberType) : State g
  /-- A member has been named. -/
  | colon {g : Goal} (list : ListContext g) (done : List MemberType) (name : String) : State g
  /-- A type is complete, unless the next lexeme extends it. -/
  | after {g : Goal} (t : DataType) (extension : Extension) (ctx : Context g) : State g
  /-- The parenthesis of a decimal is open. -/
  | precision {g : Goal} (ctx : Context g) : State g
  | precisionEnd {g : Goal} (precision : UInt32) (ctx : Context g) : State g
  | scale {g : Goal} (precision : UInt32) (ctx : Context g) : State g
  | scaleEnd {g : Goal} (precision scale : UInt32) (ctx : Context g) : State g
  /-- A text type with a size has been named. -/
  | sizeOpen {g : Goal} (kind : SizedText) (ctx : Context g) : State g
  | size {g : Goal} (kind : SizedText) (ctx : Context g) : State g
  | sizeEnd {g : Goal} (kind : SizedText) (size : UInt32) (ctx : Context g) : State g
  /-- The wrapped members are complete. -/
  | closed (members : List MemberType) : State .members

/-- The fields that members of a type text stand for: all of them may be missing. -/
def memberFields (members : List MemberType) : List Field :=
  members.map fun (name, type) => ⟨name, type, true⟩

/-- The text type of that size. -/
def SizedText.type : SizedText → UInt32 → Except SchemaError DataType
  | .char => DataType.mkChar
  | .varchar => DataType.mkVarchar

namespace State

/-- A type has been completed, and its attributes checked. -/
def complete {g : Goal} (ctx : Context g) :
    Except SchemaError DataType → Except Refusal (State g)
  | .ok t => .ok (.after t .none ctx)
  | .error e => .error (.refused (ctx.blame e))

/-- The first word of a type. -/
def keyword {g : Goal} (ctx : Context g) (word : String) : Except Refusal (State g) :=
  match Keyword.ofLower? word with
  | none => .error (.malformed (.unknownType word))
  | some (.plain t) => .ok (.after t .none ctx)
  | some .double => .ok (.after .float64 .precisionWord ctx)
  | some .timestamp => .ok (.after .timestampMillis .withWord ctx)
  | some .decimal => .ok (.after (.decimal 10 0) .parameters ctx)
  | some (.sized kind) => .ok (.sizeOpen kind ctx)
  | some (.composite kind) => .ok (.opening kind ctx)
  | some .unsupported => .error (.refused (ctx.blame (.unsupportedSource "hive" word "")))

/-- A numeral. -/
def number {g : Goal} (next : UInt32 → State g) : Lexeme → Except Refusal (State g)
  | .word w =>
    match Text.uint32OfText? w with
    | some n => .ok (next n)
    | none => .error (.malformed (.notNumber w))
  | _ => .error (.expected .number)

/-- The place after the bracket of a constructor. -/
def inside {g : Goal} (ctx : Context g) : Composite → State g
  | .array => .type (.element ctx)
  | .map => .type (.key ctx)
  | .struct => .name (.nested ctx) []

/-- The lexeme after a complete list of members. -/
def leaveMembers {g : Goal} (members : List MemberType) (l : Lexeme) :
    ListContext g → Except Refusal (State g)
  | .nested outer =>
    if l = .rangle then complete outer (DataType.mkRecord (memberFields members))
    else .error (.expected .rangle)
  | .wrapped => if l = .rangle then .ok (.closed members) else .error (.expected .rangle)
  | .bare => .error (.malformed .trailing)

/-- The lexeme after a complete type. -/
def leave {g : Goal} (t : DataType) (l : Lexeme) : Context g → Except Refusal (State g)
  | .whole => .error (.malformed .trailing)
  | .element outer =>
    if l = .rangle then .ok (.after (.array t) .none outer) else .error (.expected .rangle)
  | .key outer => if l = .comma then .ok (.type (.value t outer)) else .error (.expected .comma)
  | .value key outer =>
    if l = .rangle then .ok (.after (.map key t) .none outer) else .error (.expected .rangle)
  | .member list done n =>
    if l = .comma then .ok (.name list (done ++ [(n, t)]))
    else leaveMembers (done ++ [(n, t)]) l list

/-- The lexeme after a type, where it extends the type. -/
def extend? {g : Goal} (ctx : Context g) : Extension → DataType → Lexeme →
    Option (Except Refusal (State g))
  | .precisionWord, t, .word w =>
    if w.toLower = "precision" then some (.ok (.after t .none ctx)) else none
  | .withWord, _, .word w =>
    if w.toLower = "with" then
      some (.error (.refused (ctx.blame
        (.unsupportedSource "hive" "timestamp with local time zone" ""))))
    else none
  | .parameters, _, .lparen => some (.ok (.precision ctx))
  | _, _, _ => none

/-- Reads one lexeme. -/
def step {g : Goal} (l : Lexeme) : State g → Except Refusal (State g)
  | .type ctx =>
    if maxNesting < ctx.depth then .error (.malformed .tooDeep)
    else match l with
      | .word w => keyword ctx w.toLower
      | _ => .error (.expected .typeName)
  | .opening kind ctx => if l = .langle then .ok (inside ctx kind) else .error (.expected .langle)
  | .name list done =>
    match l with
    | .word n => .ok (.colon list done n)
    | .quoted n => .ok (.colon list done n)
    | _ => .error (.expected .fieldName)
  | .colon list done n =>
    if l = .colon then .ok (.type (.member list done n)) else .error (.expected .colon)
  | .after t extension ctx => (extend? ctx extension t l).getD (leave t l ctx)
  | .precision ctx => number (.precisionEnd · ctx) l
  | .precisionEnd p ctx =>
    if l = .comma then .ok (.scale p ctx)
    else if l = .rparen then complete ctx (DataType.mkDecimal p 0)
    else .error (.expected .rparen)
  | .scale p ctx => number (.scaleEnd p · ctx) l
  | .scaleEnd p s ctx =>
    if l = .rparen then complete ctx (DataType.mkDecimal p s) else .error (.expected .rparen)
  | .sizeOpen kind ctx => if l = .lparen then .ok (.size kind ctx) else .error (.expected .lparen)
  | .size kind ctx => number (.sizeEnd kind · ctx) l
  | .sizeEnd kind n ctx =>
    if l = .rparen then complete ctx (kind.type n) else .error (.expected .rparen)
  | .closed _ => .error (.malformed .trailing)

/-- The end of the text after a complete type. -/
def finishType {g : Goal} (t : DataType) : Context g → Except ReadReason g.Result
  | .whole => .ok t
  | .element _ => .error (.expected .rangle)
  | .key _ => .error (.expected .comma)
  | .value _ _ => .error (.expected .rangle)
  | .member .bare done n => .ok (done ++ [(n, t)])
  | .member _ _ _ => .error (.expected .rangle)

/-- The end of the text. -/
def finish {g : Goal} : State g → Except ReadReason g.Result
  | .type ctx => .error (if maxNesting < ctx.depth then .tooDeep else .expected .typeName)
  | .opening _ _ => .error (.expected .langle)
  | .name _ _ => .error (.expected .fieldName)
  | .colon _ _ _ => .error (.expected .colon)
  | .after t _ ctx => finishType t ctx
  | .precision _ => .error (.expected .number)
  | .precisionEnd _ _ => .error (.expected .rparen)
  | .scale _ _ => .error (.expected .number)
  | .scaleEnd _ _ _ => .error (.expected .rparen)
  | .sizeOpen _ _ => .error (.expected .lparen)
  | .size _ _ => .error (.expected .number)
  | .sizeEnd _ _ _ => .error (.expected .rparen)
  | .closed members => .ok members

end State

end SchemaBridge.Hive
