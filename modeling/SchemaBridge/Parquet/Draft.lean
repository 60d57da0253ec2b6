import SchemaBridge.Parquet.Fault

/-!
# Described Parquet nodes

A `Draft` describes a node by the words of the format. `Draft.build` looks the words up and checks the
node.
-/

namespace SchemaBridge.Parquet

/-- The words and numbers that describe a node, its storage and fields apart. -/
structure Outline where
  name : String
  repetition : Option String := none
  converted : Option String := none
  logical : Option String := none
  unit : TimeUnit := .millis
  utc : Bool := false
  signed : Bool := false
  bitWidth : Int8 := 0
  length : Int32 := -1
  precision : Int32 := -1
  scale : Int32 := -1

/-- A described node. -/
inductive Draft where
  | primitive (outline : Outline) (physical : String)
  | group (outline : Outline) (fields : List Draft)

/-- What a word of that kind names, or `default` if there is no word. -/
def lookUp {α : Type} (kind : WordKind) (ofWord? : String → Option α) (default : α) :
    Option String → Except Fault α
  | none => .ok default
  | some word =>
    match ofWord? word with
    | some value => .ok value
    | none => .error (.unknownWord kind word)

namespace Outline

/-- The logical type with its parameters. -/
def logicalType? (o : Outline) : Except Fault (Option Logical) :=
  match o.logical with
  | some "INTERVAL" => .error .intervalLogical
  | some "DECIMAL" => .ok (some (.decimal o.scale o.precision))
  | some "TIME" => .ok (some (.time o.utc o.unit))
  | some "TIMESTAMP" => .ok (some (.timestamp o.utc o.unit))
  | some "INTEGER" => .ok (some (.integer o.bitWidth o.signed))
  | word => lookUp .logicalType (fun w => (Logical.ofWord? w).map some) none word

/-- The common part of a node. Words are looked up in the order repetition, converted type, logical
type. -/
def info (o : Outline) : Except Fault Info := do
  let repetition ← lookUp .repetition (fun w => (repetitionOfWord? w).map some) none o.repetition
  let converted ← lookUp .convertedType Converted.ofWord? .none o.converted
  let logical ← o.logicalType?
  return ⟨o.name, repetition, logical, converted⟩

end Outline

mutual

/-- The node that a draft describes. A primitive without a repetition is optional. -/
def Draft.build : Draft → Except Fault Node
  | .primitive outline physical => do
    let info ← outline.info
    let physical ← lookUp .type Physical.ofWord? .boolean (some physical)
    mkPrimitive ⟨info.name, info.repetition.or (some .optional), info.logical, info.converted⟩
      ⟨physical, outline.length, outline.precision, outline.scale⟩
  | .group outline fields => do
    let info ← outline.info
    return .group info (← buildAll fields)

def buildAll : List Draft → Except Fault (List Node)
  | [] => .ok []
  | draft :: drafts => do
    let node ← draft.build
    let nodes ← buildAll drafts
    return node :: nodes

end

end SchemaBridge.Parquet
