import SchemaBridge.Toml.Document
import SchemaBridge.Toml.Scalar

/-!
# Reading TOML

`Toml.read?` reads a document line by line. Line ends of two characters count as one, and a byte order
mark in front is skipped. Values nest; the number of characters bounds how deep.
-/

namespace SchemaBridge.Toml

/-- Line ends of two characters as one. -/
def foldLineEnds : List Char → List Char
  | '\r' :: '\n' :: cs => '\n' :: foldLineEnds cs
  | c :: cs => c :: foldLineEnds cs
  | [] => []

/-- A step through the characters of a document, which may fail. -/
abbrev Reader := StateT (List Char) Option

namespace Reader

def isBlank (c : Char) : Bool := c == ' ' || c == '\t'

/-- The characters of bare keys, and of the words that numbers and dates are made of. -/
def isWordChar (c : Char) : Bool := c.isAlphanum || c == '_' || c == '-'

def peek? : Reader (Option Char) := return (← get).head?

/-- The characters at the front that satisfy `p`. -/
def takeWhile (p : Char → Bool) : Reader (List Char) := do
  let cs ← get
  set (cs.dropWhile p)
  return cs.takeWhile p

def skipBlanks : Reader Unit := discard (takeWhile isBlank)

/-- Whether the next character is `c`, which is then skipped. -/
def accept (c : Char) : Reader Bool := do
  match ← get with
  | d :: cs => if d = c then set cs; return true else return false
  | [] => return false

def expect (c : Char) : Reader Unit := do
  if !(← accept c) then failure

/-- A word that must come next. -/
def word : Reader (List Char) := do
  let cs ← takeWhile isWordChar
  if cs.isEmpty then failure else return cs

def lineEnd : Reader Unit := do
  if (← get).isEmpty then return () else expect '\n'

/-- A comment with the end of its line, if there is one. -/
def comment : Reader Bool := do
  if ← accept '#' then
    discard (takeWhile fun c => c == '\t' || 0x20 ≤ c.toNat)
    lineEnd
    return true
  return false

/-- A string after its first quote. -/
def text (delim : Char) : Reader (String × Bool) := do
  match text? delim (← get) with
  | some (result, rest) => set rest; return result
  | none => failure

/-! ## Keys -/

def key : Reader String := do
  if ← accept '"' then
    let (name, multi) ← text '"'
    if multi then failure else return name
  else if ← accept '\'' then
    let (name, multi) ← text '\''
    if multi then failure else return name
  else return String.ofList (← word)

/-- The keys after the first one of a dotted key. -/
def moreKeys : Nat → Reader (List String)
  | 0 => failure
  | fuel + 1 => do
    skipBlanks
    if ← accept '.' then
      skipBlanks
      let name ← key
      return name :: (← moreKeys fuel)
    return []

def dottedKey (fuel : Nat) : Reader (List String) := do
  let name ← key
  return name :: (← moreKeys fuel)

/-! ## Values -/

/-- `c` and the word after it, if `c` comes next. -/
def acceptPart (c : Char) : Reader (List Char) := do
  if ← accept c then return c :: (← word) else return []

/-- Whether a word starts a date, or a date with a time. -/
def isDateWord (cs : List Char) : Bool :=
  cs.any (fun c => c == 'T' || c == 't') ||
    (cs.tail.contains '-' && !(neighbours cs).any fun (a, b) => Text.isExponentMark a && b == '-')

/-- Minutes, seconds and what may follow them, from the colon after the hour on. -/
def clock : Reader (List Char) := do
  expect ':'
  let minutes ← word
  expect ':'
  let seconds ← word
  let fraction ← acceptPart '.'
  let plus ← acceptPart '+'
  let offset ← acceptPart ':'
  return ':' :: minutes ++ ':' :: seconds ++ fraction ++ plus ++ offset

/-- The hour after a date and one blank. -/
def hour : Reader (List Char) := do
  match ← get with
  | ' ' :: c :: cs =>
    if isWordChar c then
      set (c :: cs)
      return ' ' :: (← word)
    return []
  | _ => return []

/-- A date, a time of day, or both, of which `first` has been read. -/
def datetime (first : List Char) : Reader Toml := do
  let hour ← if (← peek?) = some ':' then pure [] else hour
  let clock ← if (← peek?) = some ':' then clock else pure []
  let spelling := first ++ hour ++ clock
  if isDatetime spelling then return .datetime (String.ofList spelling) else failure

/-- The rest of an exponent whose sign is a plus. -/
def plusPart (cs : List Char) : Reader (List Char) :=
  if cs.getLast?.any Text.isExponentMark then acceptPart '+' else return []

/-- A number of which `first` has been read. -/
def number (first : List Char) : Reader Toml := do
  let spelling ←
    if first.any Text.isExponentMark then pure (first ++ (← plusPart first))
    else do
      let fraction ← acceptPart '.'
      pure (first ++ fraction ++ (← plusPart fraction))
  match number? spelling with
  | some value => return value
  | none => failure

/-- A value that starts with a word. -/
def wordValue : Reader Toml := do
  let first ← word
  if first = "true".toList then return .bool true
  if first = "false".toList then return .bool false
  if isDateWord first || (← peek?) = some ':' then datetime first else number first

/-- Skips blanks, line ends and comments. -/
def skipLines : Nat → Reader Unit
  | 0 => failure
  | fuel + 1 => do
    skipBlanks
    if ← accept '\n' then skipLines fuel
    else if ← comment then skipLines fuel

mutual

def value : Nat → Reader Toml
  | 0 => failure
  | fuel + 1 => do
    if ← accept '"' then return .string (← text '"').1
    if ← accept '\'' then return .string (← text '\'').1
    if ← accept '\x7b' then
      skipBlanks
      if ← accept '\x7d' then return .table []
      match inlineTable? (← pairs fuel) with
      | some result => return result
      | none => failure
    else if ← accept '[' then return .array (← items fuel)
    else if ← accept '+' then number (← word)
    else wordValue

/-- The items of an array up to its closing bracket. -/
def items : Nat → Reader (List Toml)
  | 0 => failure
  | fuel + 1 => do
    skipLines (fuel + 1)
    if ← accept ']' then return []
    let first ← value fuel
    skipLines (fuel + 1)
    if ← accept ',' then return first :: (← items fuel)
    expect ']'
    return [first]

/-- The pairs of an inline table up to its closing brace. -/
def pairs : Nat → Reader (List (List String × Toml))
  | 0 => failure
  | fuel + 1 => do
    let path ← dottedKey (fuel + 1)
    expect '='
    skipBlanks
    let v ← value fuel
    skipBlanks
    if ← accept '\x7d' then return [(path, v)]
    expect ','
    skipBlanks
    return (path, v) :: (← pairs fuel)

end

/-! ## Lines -/

/-- A header after its first bracket. -/
def header (fuel : Nat) : Reader Statement := do
  let array ← accept '['
  skipBlanks
  let path ← dottedKey fuel
  expect ']'
  if array then expect ']'
  skipBlanks
  if !(← comment) then lineEnd
  return if array then .arrayTable path else .table path

def assignment (fuel : Nat) : Reader Statement := do
  let path ← dottedKey fuel
  expect '='
  skipBlanks
  let v ← value fuel
  skipBlanks
  if !(← comment) then lineEnd
  return .assign path v

/-- The lines of a document. -/
def statements : Nat → Reader (List Statement)
  | 0 => failure
  | fuel + 1 => do
    skipLines (fuel + 1)
    match ← peek? with
    | none => return []
    | some _ =>
      let first ← if ← accept '[' then header fuel else assignment fuel
      return first :: (← statements fuel)

end Reader

/-- The table that a text describes. -/
def read? (text : String) : Option Toml :=
  let cs := match foldLineEnds text.toList with
    | '\ufeff' :: cs => cs
    | cs => cs
  ((Reader.statements (2 * cs.length + 2)).run cs).bind fun (lines, _) => ofStatements? lines

end SchemaBridge.Toml
