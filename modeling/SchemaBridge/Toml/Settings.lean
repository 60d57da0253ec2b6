import SchemaBridge.Error
import SchemaBridge.Policy
import SchemaBridge.Toml.Reader

/-!
# Settings in TOML

Settings are two sections of policies, `import` and `export`. Keys and sections that are not known are
ignored, missing ones keep their defaults. A top-level key in quotes may be a path, with dots before
names and brackets around places in arrays; it stands for the end of that path. Tables that meet at
one place are merged.
-/

namespace SchemaBridge

namespace Toml

/-- Sets the member of that name. -/
def put (name : String) (value : Toml) : List (String × Toml) → List (String × Toml)
  | [] => [(name, value)]
  | (key, v) :: ms => if key = name then (key, value) :: ms else (key, v) :: put name value ms

mutual

/-- A value that comes to a place that may hold one already: tables are merged, other values
replace what was there, and an empty table changes nothing. -/
def mergeInto (existing : Option Toml) : Toml → Toml
  | .table [] => existing.getD (.table [])
  | .table ms => .table (mergeAll (existing.elim [] Toml.members) ms)
  | value => value

def mergeAll (base : List (String × Toml)) : List (String × Toml) → List (String × Toml)
  | [] => base
  | (name, value) :: ms => mergeAll (put name (mergeInto (base.lookup name) value) base) ms

end

/-- A step of a path: a member of a table, or a place in an array. -/
inductive Step where
  | name (name : String)
  /-- A negative index counts from the end. -/
  | place (index : Int)
deriving DecidableEq, Repr

/-- The items of an array; nothing for other values. -/
def items : Toml → List Toml
  | array items => items
  | _ => []

/-- An array with a value at `index`; empty tables fill the gap up to it. -/
def setItem (index : Nat) (value : Toml) (items : List Toml) : List Toml :=
  (items ++ List.replicate (index + 1 - items.length) (Toml.table [])).set index value

/-- What a place holds after a value has come to the end of a path from there. A step replaces what
does not have such parts. -/
def putAt (value : Toml) : List Step → Option Toml → Toml
  | [], existing => mergeInto existing value
  | .name name :: path, existing =>
    let ms := existing.elim [] members
    .table (put name (putAt value path (ms.lookup name)) ms)
  | .place index :: path, existing =>
    let is := existing.elim [] items
    let index := if 0 ≤ index then index.toNat else is.length - index.natAbs
    .array (setItem index (putAt value path (if path.isEmpty then none else is[index]?)) is)

/-- A place in an array, as it is written between brackets. -/
def place? (cs : List Char) : Option Step := do
  let cs := (cs.dropWhile Reader.isBlank).reverse.dropWhile Reader.isBlank |>.reverse
  let (negative, digits) := match cs with
    | '-' :: digits => (true, digits)
    | digits => (false, digits)
  (int64? negative (← Text.natOfDigits? digits)).map .place

/-- The places in brackets, one after the other. -/
def places? (text : String) : Option (List Step) := do
  let parts := text.splitOn "]"
  if parts.getLast? ≠ some "" then none
  else parts.dropLast.mapM fun part =>
    match part.toList with
    | '[' :: cs => place? cs
    | _ => none

def isPathChar (c : Char) : Bool := c.isAlphanum || c == '_' || c == '-' || c == ' '

/-- A name and the places after it. -/
def steps? (text : String) : Option (List Step) := do
  let name := text.toList.takeWhile isPathChar
  if name.isEmpty then none
  else return .name (String.ofList name) ::
    (← places? (String.ofList (text.toList.dropWhile isPathChar)))

/-- The steps of a top-level key. A key that is no path is one step. -/
def pathOf (key : String) : List Step :=
  (((key.splitOn ".").mapM steps?).map List.flatten).getD [.name key]

/-- The members of a document, with paths resolved. -/
def resolve (members : List (String × Toml)) : List (String × Toml) :=
  members.foldl (fun ms (key, value) => (putAt value (pathOf key) (some (.table ms))).members) []

/-- A policy is its word, or a table whose only key is that word. -/
def policy? : Toml → Option Policy
  | .string word => Policy.ofWord? word
  | .table [(word, _)] => Policy.ofWord? word
  | _ => none

/-- The parts of a section with keys of these names: by name from a table, in order from an array. -/
def section? (names : List String) : Toml → Option (List (String × Toml))
  | .table ms => some ms
  | .array items => some (names.zip items)
  | _ => none

/-- The policy of that name in a section. -/
def policyAt? (default : Policy) (name : String) (parts : List (String × Toml)) : Option Policy :=
  match parts.lookup name with
  | some value => policy? value
  | none => some default

def sourcePolicies? (value : Toml) : Option SourcePolicies := do
  let parts ← section? ["unsigned"] value
  return ⟨← policyAt? .widen "unsigned" parts⟩

def hivePolicies? (value : Toml) : Option HivePolicies := do
  let parts ← section? ["timestamp_micros", "time_of_day", "enums"] value
  let timestampMicros ← policyAt? .widen "timestamp_micros" parts
  let timeOfDay ← policyAt? .reject "time_of_day" parts
  let enums ← policyAt? .widen "enums" parts
  return ⟨timestampMicros, timeOfDay, enums⟩

/-- The settings that the members of a document hold. -/
def settings? (members : List (String × Toml)) : Option Settings := do
  let source ← (members.lookup "import").elim (some {}) sourcePolicies?
  let hive ← (members.lookup "export").elim (some {}) hivePolicies?
  return ⟨source, hive⟩

end Toml

namespace Settings

/-- The settings that a TOML text from `sourceName` holds. -/
def ofToml (sourceName text : String) : Except SchemaError Settings :=
  match Toml.read? text with
  | none => .error (.config (.load sourceName "malformed document"))
  | some document =>
    match Toml.settings? (Toml.resolve document.members) with
    | none => .error (.config (.load sourceName "unexpected value"))
    | some settings => .ok settings

def policyLine (key : String) (p : Policy) : String := key ++ " = \"" ++ p.word ++ "\"\n"

/-- Settings as a TOML text. -/
def toToml (s : Settings) : String :=
  "[import]\n" ++ policyLine "unsigned" s.source.unsigned ++ "\n[export]\n" ++
    policyLine "timestamp_micros" s.hive.timestampMicros ++
    policyLine "time_of_day" s.hive.timeOfDay ++ policyLine "enums" s.hive.enums

end Settings

end SchemaBridge
