import SchemaBridge.Hive.Column
import SchemaBridge.Json.Printer
import SchemaBridge.Parquet.Import
import SchemaBridge.Toml.Settings
import SchemaBridge.Wire.Column
import SchemaBridge.Wire.DataType

/-!
# The command line

    schema-translate [SCHEMA] [-c FILE] [-f text|json|model] [--print-config] [-v] [-h]

The command reads a Parquet message text and prints its Hive columns as text or as JSON, or its type as
JSON. `parse` reads the arguments, `report` prints what is asked about one schema text, and `run` puts them
together over a way to read files. Output is printed piece by piece, so that a run that fails stops with
what it has printed by then.
-/

namespace SchemaBridge.Command

/-- What is printed about a schema. -/
inductive Format where
  | text
  | json
  | model
deriving DecidableEq, Repr

def Format.ofWord? : String → Option Format
  | "text" => some .text
  | "json" => some .json
  | "model" => some .model
  | _ => none

/-- How much the command says about itself. -/
inductive Help where
  | summary
  | full
deriving DecidableEq, Repr

/-- What the arguments ask for. -/
structure Request where
  schema : Option String := none
  config : Option String := none
  format : Format := .text
  printConfig : Bool := false
  help : Option Help := none
deriving DecidableEq, Repr

/-- The named parameters. -/
inductive Param where
  | config
  | format
  | printConfig
  | verbose
  | help (amount : Help)
deriving DecidableEq, Repr

/-- Why arguments are refused. -/
inductive UsageError where
  | unexpected (arg : String)
  | missingValue (usage : String)
  | unexpectedValue (value usage : String)
  | invalidValue (value : String)
  | repeated (usage : String)
deriving DecidableEq, Repr

/-- Why a run fails. -/
inductive Failure where
  | usage (error : UsageError)
  | settings (path : String)
  | noSchema
  | reading (path : String)
  | importing (path : String)
  | schema (error : SchemaError)
deriving DecidableEq, Repr

/-- How a parameter is shown. -/
def Param.usage : Param → String
  | .config => "--config <CONFIG>"
  | .format => "--format <FORMAT>"
  | .printConfig => "--print-config"
  | .verbose => "--verbose"
  | .help _ => "--help"

def Param.takesValue : Param → Bool
  | .config => true
  | .format => true
  | _ => false

def Param.ofLong? : String → Option Param
  | "config" => some .config
  | "format" => some .format
  | "print-config" => some .printConfig
  | "verbose" => some .verbose
  | "help" => some (.help .full)
  | _ => none

def Param.ofShort? : Char → Option Param
  | 'c' => some .config
  | 'f' => some .format
  | 'v' => some .verbose
  | 'h' => some (.help .summary)
  | _ => none

def UsageError.message : UsageError → String
  | .unexpected arg => "unexpected argument '" ++ arg ++ "' found"
  | .missingValue usage => "a value is required for '" ++ usage ++ "' but none was supplied"
  | .unexpectedValue value usage =>
    "unexpected value '" ++ value ++ "' for '" ++ usage ++ "' found; no more were expected"
  | .invalidValue value => "invalid value '" ++ value ++ "' for '--format <FORMAT>'"
  | .repeated usage => "the argument '" ++ usage ++ "' cannot be used multiple times"

/-- The first line of the complaint about a failure. -/
def Failure.complaint : Failure → String
  | .usage error => "error: " ++ error.message
  | .settings path => "Error: loading configuration from " ++ path
  | .noSchema => "Error: a schema file is required unless --print-config is given"
  | .reading path => "Error: reading " ++ path
  | .importing path => "Error: importing " ++ path
  | .schema error => "Error: " ++ error.message

/-- The exit code of a failure. -/
def Failure.code : Failure → Nat
  | .usage _ => 2
  | _ => 1

/-- A run that fails: what it has printed until then, and why it fails. -/
structure Stop where
  printed : String
  failure : Failure
deriving DecidableEq, Repr

def Stop.complaint (stop : Stop) : String := stop.failure.complaint

def Stop.code (stop : Stop) : Nat := stop.failure.code

/-! ## Arguments -/

/-- A value that has been given but not looked at yet. -/
inductive Pending where
  | schema (value : String)
  | param (p : Param) (value : Option String)
deriving DecidableEq, Repr

/-- What has been read of the arguments. -/
structure Progress where
  request : Request := {}
  given : List Param := []
  pending : Option Pending := none
  /-- After `--` every argument is a schema. -/
  onlySchemas : Bool := false

/-- Sets a parameter, which may be done once. -/
def give (p : Param) (value : String) (s : Progress) : Except UsageError Progress :=
  if p ∈ s.given then .error (.repeated p.usage)
  else
    let s := { s with given := p :: s.given }
    match p with
    | .config =>
      if value = "" then .error (.missingValue p.usage)
      else .ok { s with request := { s.request with config := some value } }
    | .format =>
      if value = "" then .error (.missingValue p.usage)
      else match Format.ofWord? value with
        | some format => .ok { s with request := { s.request with format := format } }
        | none => .error (.invalidValue value)
    | .printConfig => .ok { s with request := { s.request with printConfig := true } }
    | .verbose => .ok s
    | .help amount => .ok { s with request := { s.request with help := some amount } }

/-- Looks at the value that is pending. -/
def settle (s : Progress) : Except UsageError Progress :=
  match s.pending with
  | none => .ok s
  | some (.schema value) =>
    if value = "" then .error (.missingValue "[SCHEMA]") else .ok { s with pending := none }
  | some (.param p none) => .error (.missingValue p.usage)
  | some (.param p (some value)) => give p value { s with pending := none }

/-- A schema. There is one at most. -/
def takeSchema (arg : String) (s : Progress) : Except UsageError Progress :=
  if s.request.schema.isSome then .error (.unexpected arg)
  else do
    let s ← settle s
    return { s with request := { s.request with schema := some arg },
                    pending := some (.schema arg) }

/-- A parameter that is given by its long name, with its value after an equals sign if there is one.
Whether the argument itself can be read is seen before the value that is pending is looked at. -/
def takeLong (arg : String) (s : Progress) : Except UsageError Progress :=
  let body := arg.toList.drop 2
  let name := String.ofList (body.takeWhile (· ≠ '='))
  let value := match body.dropWhile (· ≠ '=') with
    | [] => none
    | _ :: value => some (String.ofList value)
  match Param.ofLong? name with
  | none => .error (.unexpected ("--" ++ name))
  | some p =>
    match p.takesValue, value with
    | false, some value => .error (.unexpectedValue value p.usage)
    | true, none => (settle s).map fun s => { s with pending := some (.param p none) }
    | _, value => (settle s).bind (give p (value.getD ""))

/-- Parameters that are given by short names in one argument. -/
def takeShorts : List Char → Progress → Except UsageError Progress
  | [], s => .ok s
  | c :: cs, s =>
    if s.request.help.isSome then .ok s
    else match Param.ofShort? c with
    | none => .error (.unexpected ("-" ++ c.toString))
    | some p => do
      let s ← settle s
      if p.takesValue then
        match cs with
        | [] => return { s with pending := some (.param p none) }
        | '=' :: value => give p (String.ofList value) s
        | value => give p (String.ofList value) s
      else takeShorts cs (← give p "" s)

/-- Reads one argument. Nothing is read after a request for help. -/
def takeArg (s : Progress) (arg : String) : Except UsageError Progress :=
  if s.request.help.isSome then .ok s
  else if s.onlySchemas then takeSchema arg s
  else if arg = "--" then .ok { s with onlySchemas := true }
  else match arg.toList with
    | '-' :: '-' :: _ => takeLong arg s
    | '-' :: c :: cs => takeShorts (c :: cs) s
    | _ =>
      match s.pending with
      | some (.param p none) => .ok { s with pending := some (.param p (some arg)) }
      | _ => takeSchema arg s

/-- What arguments ask for. -/
def parse (args : List String) : Except UsageError Request := do
  let s ← args.foldlM takeArg {}
  return (← settle s).request

/-! ## Output -/

/-- A computation that prints. What it has printed stays printed if it fails. -/
abbrev Printing (m : Type → Type) := ExceptT Failure (StateT String m)

section
variable {m : Type → Type} [Monad m]

/-- Prints a text. -/
def say (text : String) : Printing m Unit := modify (· ++ text)

/-- What the command is for, and how it is called. -/
def usageText : String :=
  "Translate a Parquet message type into Hive column definitions\n\n" ++
  "Usage: schema-translate [OPTIONS] [SCHEMA]\n\n"

/-- What the command says about itself: a line for each parameter, or all that there is to say. -/
def helpText : Help → String
  | .summary =>
    usageText ++
    "Arguments:\n" ++
    "  [SCHEMA]  File holding a Parquet message type (as printed by parquet tooling)\n\n" ++
    "Options:\n" ++
    "  -c, --config <CONFIG>  TOML file with import/export policies\n" ++
    "  -f, --format <FORMAT>  [default: text] [possible values: text, json, model]\n" ++
    "      --print-config     Print the effective configuration and exit\n" ++
    "  -v, --verbose          Log at debug level unless RUST_LOG is set\n" ++
    "  -h, --help             Print help (see more with '--help')\n"
  | .full =>
    usageText ++
    "Arguments:\n" ++
    "  [SCHEMA]\n" ++
    "          File holding a Parquet message type (as printed by parquet tooling)\n\n" ++
    "Options:\n" ++
    "  -c, --config <CONFIG>\n" ++
    "          TOML file with import/export policies\n\n" ++
    "  -f, --format <FORMAT>\n" ++
    "          [default: text]\n\n" ++
    "          Possible values:\n" ++
    "          - text:  One `name type [NOT NULL]` line per column\n" ++
    "          - json:  Hive column list as JSON\n" ++
    "          - model: Unified model as JSON\n\n" ++
    "      --print-config\n" ++
    "          Print the effective configuration and exit\n\n" ++
    "  -v, --verbose\n" ++
    "          Log at debug level unless RUST_LOG is set\n\n" ++
    "  -h, --help\n" ++
    "          Print help (see a summary with '-h')\n"

/-- A column as a line of text. -/
def columnLine (c : Hive.Column) : String :=
  c.name ++ " " ++ c.type ++ (if c.nullable then "" else " NOT NULL") ++ "\n"

/-- Prints a value over several lines. -/
def sayJson (j : Json) : Printing m Unit := say (j.pretty ++ "\n")

/-- Prints a record in a format. Columns in text are printed one by one. -/
def printRecord (policies : HivePolicies) (format : Format) (r : Record) : Printing m Unit :=
  match format with
  | .model => sayJson (Wire.encodeType r.toType)
  | .json => do
    let columns ← (Hive.columns policies r.fields).mapError Failure.schema
    sayJson (Wire.encodeColumns columns)
  | .text => do
    let columns ← (Hive.columns policies r.fields).mapError Failure.schema
    columns.forM fun column => say (columnLine column)

/-- Prints what is asked about the schema text of the file `path`. -/
def report (settings : Settings) (format : Format) (path text : String) : Printing m Unit :=
  match Parquet.recordOfMessage settings.source text with
  | .error _ => throw (.importing path)
  | .ok r => printRecord settings.hive format r

/-- The content of a settings file, which may be named without its extension. -/
def readSettings (read : String → m (Option String)) (path : String) : m (Option String) := do
  match ← read path with
  | some text => return some text
  | none => read (path ++ ".toml")

/-- The settings of a request. -/
def loadSettings (read : String → m (Option String)) : Option String → m (Except Failure Settings)
  | none => return .ok {}
  | some path => do
    match ← readSettings read path with
    | none => return .error (.settings path)
    | some text => return (Settings.ofToml path text).mapError fun _ => .settings path

/-- Does what a request asks for under its settings. -/
def answer (read : String → m (Option String)) (request : Request) (settings : Settings) :
    Printing m Unit := do
  if request.printConfig then say settings.toToml
  else match request.schema with
    | none => throw .noSchema
    | some path =>
      match ← read path with
      | none => throw (.reading path)
      | some text => report settings request.format path text

/-- Does what the arguments ask for. -/
def perform (read : String → m (Option String)) (args : List String) : Printing m Unit := do
  match parse args with
  | .error e => throw (.usage e)
  | .ok request =>
    match request.help with
    | some amount => say (helpText amount)
    | none =>
      match ← (loadSettings read request.config : m (Except Failure Settings)) with
      | .error failure => throw failure
      | .ok settings => answer read request settings

/-- Runs the command over a way to read files. The result is its output. -/
def run (read : String → m (Option String)) (args : List String) : m (Except Stop String) := do
  let (result, printed) ← (perform read args).run.run ""
  return match result with
    | .ok () => .ok printed
    | .error failure => .error ⟨printed, failure⟩

end

end SchemaBridge.Command
