/-!
# Policies for types without an exact counterpart

A conversion that meets a type without an exact counterpart either widens it to a documented
substitute or rejects it. `SourcePolicies` decide on the way in, `HivePolicies` on the way out;
`Settings` holds both.
-/

namespace SchemaBridge

/-- What to do with a type that has no exact counterpart. -/
inductive Policy where
  | widen
  | reject
deriving DecidableEq, Repr

def Policy.word : Policy → String
  | .widen => "widen"
  | .reject => "reject"

def Policy.ofWord? : String → Option Policy
  | "widen" => some .widen
  | "reject" => some .reject
  | _ => none

@[simp] theorem Policy.ofWord?_word (p : Policy) : Policy.ofWord? p.word = some p := by
  cases p <;> rfl

/-- Decisions on source types: unsigned integers take the next wider signed type, or fail. -/
structure SourcePolicies where
  unsigned : Policy := .widen
deriving DecidableEq, Repr

/-- Decisions on Hive type texts: microsecond timestamps as `timestamp`, times of day as integers,
enumerations as `string`, or failure. -/
structure HivePolicies where
  timestampMicros : Policy := .widen
  timeOfDay : Policy := .reject
  enums : Policy := .widen
deriving DecidableEq, Repr

/-- The settings of a run. -/
structure Settings where
  source : SourcePolicies := {}
  hive : HivePolicies := {}
deriving DecidableEq, Repr

end SchemaBridge
