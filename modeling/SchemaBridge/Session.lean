import SchemaBridge.Hive.Column
import SchemaBridge.Parquet.Import
import SchemaBridge.Toml.Settings

/-!
# Sessions

A session holds a current type, none at first, and settings. Each step reads a type, builds one from the
current type, or reports on it. A step that fails leaves the session as it is.
-/

namespace SchemaBridge

/-- What a session holds. -/
structure Session where
  current : Option DataType := none
  settings : Settings := {}

namespace Session

/-- Why a step fails. -/
inductive Failure where
  | noCurrent
  | notRecord
  | schema (error : SchemaError)
deriving DecidableEq, Repr

/-- What a step asks for. -/
inductive Step where
  /-- Reads a Hive type text. -/
  | parse (text : String)
  | set (type : DataType)
  /-- Reads a Parquet message text. -/
  | message (text : String)
  | source (node : Source.Node)
  /-- Wraps the current type in an array. -/
  | array
  /-- Makes the current type the key of a map. -/
  | mapKey (value : String)
  /-- Makes the current type the value of a map. -/
  | mapValue (key : String)
  /-- Makes the current type the one field of a record. -/
  | wrap (name : String) (nullable : Bool)
  /-- Adds a field at the end. -/
  | add (name text : String) (nullable : Bool)
  /-- Removes a field. -/
  | drop (name : String)
  /-- Goes to the type of a field. -/
  | field (name : String)
  /-- Goes to a child. -/
  | child (index : Nat)
  /-- Writes the current type and reads it back. -/
  | reread
  /-- Lists the columns and reads them back. -/
  | recolumn
  | configure (toml : String)
  | policies
  | export
  | columns
  | names
  | equals (text : String)

/-- What a step answers. -/
inductive Reply where
  | type (t : DataType)
  /-- There is no such child; the current type stays. -/
  | nothing
  | settings (s : Settings)
  | policies (source : SourcePolicies) (hive : HivePolicies)
  | text (s : String)
  | columns (cs : List Hive.Column)
  | names (ns : List String)
  | truth (b : Bool)

/-- A conversion inside a step. -/
def lift {α : Type} (r : Except SchemaError α) : Except Failure α := r.mapError .schema

def needCurrent (s : Session) : Except Failure DataType :=
  match s.current with
  | some t => .ok t
  | none => .error .noCurrent

def needFields (s : Session) : Except Failure (List Field) := do
  match (← s.needCurrent).fields? with
  | some fields => return fields
  | none => throw .notRecord

/-- Makes a type the current one. -/
def become (s : Session) (t : DataType) : Session × Reply := ({ s with current := some t }, .type t)

/-- Makes a type the current one, if there is one. -/
def move (s : Session) : Option DataType → Session × Reply
  | some t => s.become t
  | none => (s, .nothing)

/-- Carries out a step. -/
def step (s : Session) : Step → Except Failure (Session × Reply)
  | .parse text => do return s.become (← lift (Hive.readType text))
  | .set type => return s.become type
  | .message text => do
    return s.become (← lift (Parquet.recordOfMessage s.settings.source text)).toType
  | .source node => do return s.become (← lift (Source.typeOf s.settings.source node))
  | .array => do return s.become (.array (← s.needCurrent))
  | .mapKey value => do
    let key ← s.needCurrent
    return s.become (.map key (← lift (Hive.readType value)))
  | .mapValue key => do
    let key ← lift (Hive.readType key)
    return s.become (.map key (← s.needCurrent))
  | .wrap name nullable => do
    let type ← s.needCurrent
    return s.become (← lift (DataType.mkRecord [⟨name, type, nullable⟩]))
  | .add name text nullable => do
    let fields ← s.needFields
    let type ← lift (Hive.readType text)
    return s.become (← lift (DataType.mkRecord (fields ++ [⟨name, type, nullable⟩])))
  | .drop name => do
    let fields ← s.needFields
    return s.become (← lift (DataType.mkRecord (fields.filter (·.name != name))))
  | .field name => do
    let fields ← s.needFields
    return s.move ((fields.find? (·.name == name)).map Member.type)
  | .child index => do return s.move (← s.needCurrent).children[index]?
  | .reread => do
    let text ← lift (Hive.typeText s.settings.hive (← s.needCurrent))
    return s.become (← lift (Hive.readType text))
  | .recolumn => do
    let columns ← lift (Hive.columns s.settings.hive (← s.needFields))
    return s.become (← lift (Hive.recordOfColumns columns)).toType
  | .configure toml => do
    let settings ← lift (Settings.ofToml "<inline>" toml)
    return ({ s with settings := settings }, .settings settings)
  | .policies => return (s, .policies s.settings.source s.settings.hive)
  | .export => do return (s, .text (← lift (Hive.typeText s.settings.hive (← s.needCurrent))))
  | .columns => do return (s, .columns (← lift (Hive.columns s.settings.hive (← s.needFields))))
  | .names => do return (s, .names ((← s.needFields).map Member.name))
  | .equals text => do
    let type ← s.needCurrent
    return (s, .truth (type.same (← lift (Hive.readType text))))

end Session

end SchemaBridge
