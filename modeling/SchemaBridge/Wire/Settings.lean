import SchemaBridge.Policy
import SchemaBridge.Wire.Mismatch

/-!
# Settings in JSON

Policies are words. A member that is missing takes its default.
-/

namespace SchemaBridge.Wire

def encodePolicy (p : Policy) : Json := .string p.word

def encodeSourcePolicies (p : SourcePolicies) : Json :=
  .object [("unsigned", encodePolicy p.unsigned)]

def encodeHivePolicies (p : HivePolicies) : Json :=
  .object [("timestamp_micros", encodePolicy p.timestampMicros),
    ("time_of_day", encodePolicy p.timeOfDay), ("enums", encodePolicy p.enums)]

def encodeSettings (s : Settings) : Json :=
  .object [("import", encodeSourcePolicies s.source), ("export", encodeHivePolicies s.hive)]

/-- A policy is its word, or an object whose one member has that name and is null. -/
def decodePolicy : Json → Except Mismatch Policy
  | .string word => required (Policy.ofWord? word)
  | .object [(word, .null)] => required (Policy.ofWord? word)
  | _ => .error .shape

def decodeSourcePolicies (j : Json) : Except Mismatch SourcePolicies := do
  let parts ← required (optionalParts? ["unsigned"] j)
  return ⟨← partD .widen decodePolicy "unsigned" parts⟩

def decodeHivePolicies (j : Json) : Except Mismatch HivePolicies := do
  let parts ← required (optionalParts? ["timestamp_micros", "time_of_day", "enums"] j)
  let timestampMicros ← partD .widen decodePolicy "timestamp_micros" parts
  let timeOfDay ← partD .reject decodePolicy "time_of_day" parts
  let enums ← partD .widen decodePolicy "enums" parts
  return ⟨timestampMicros, timeOfDay, enums⟩

def decodeSettings (j : Json) : Except Mismatch Settings := do
  let parts ← required (optionalParts? ["import", "export"] j)
  let source ← partD {} decodeSourcePolicies "import" parts
  let hive ← partD {} decodeHivePolicies "export" parts
  return ⟨source, hive⟩

end SchemaBridge.Wire
