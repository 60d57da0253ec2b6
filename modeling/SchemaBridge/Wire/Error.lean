import SchemaBridge.Wire.Variant

/-!
# Schema errors in JSON
-/

namespace SchemaBridge.Wire

def encodeConfigError : ConfigError → Json
  | .load sourceName reason => .object [("Load", .object
      [("source_name", .string sourceName), ("reason", .string reason)])]
  | .render reason => .object [("TomlRenderError", .string reason)]

def encodeError : SchemaError → Json
  | .invalidParameters typeName reason => .object [("InvalidTypeParameters", .object
      [("type_name", .string typeName), ("reason", .string reason)])]
  | .unsupportedSource physical refinement path => .object [("UnsupportedSourceType", .object
      [("physical", .string physical), ("annotation", .string refinement), ("path", .string path)])]
  | .unsupportedTarget typeName dialect reason path => .object [("UnsupportedTargetType", .object
      [("type_name", .string typeName), ("dialect", .string dialect), ("reason", .string reason),
        ("path", .string path)])]
  | .malformed input position reason => .object [("MalformedTypeString", .object
      [("input", .string input), ("position", .nat position), ("reason", .string reason)])]
  | .sourceSchema reason => .object [("SourceSchema", .string reason)]
  | .config error => .object [("Config", encodeConfigError error)]

def decodeConfigError (j : Json) : Except Mismatch ConfigError := do
  let (name, content) ← required (variant? j)
  match name with
  | "Load" => members (fun ms => do
      let sourceName ← part decodeString "source_name" ms
      let reason ← part decodeString "reason" ms
      return .load sourceName reason) content
  | "TomlRenderError" => single (fun j => (decodeString j).map .render) content
  | _ => .error .shape

/-- A byte offset has 64 bits. -/
def decodePosition (j : Json) : Except Mismatch Nat := required (j.nat? 18446744073709551615)

def decodeError (j : Json) : Except Mismatch SchemaError := do
  let (name, content) ← required (variant? j)
  match name with
  | "InvalidTypeParameters" => members (fun ms => do
      let typeName ← part decodeString "type_name" ms
      let reason ← part decodeString "reason" ms
      return .invalidParameters typeName reason) content
  | "UnsupportedSourceType" => members (fun ms => do
      let physical ← part decodeString "physical" ms
      let refinement ← part decodeString "annotation" ms
      let path ← part decodeString "path" ms
      return .unsupportedSource physical refinement path) content
  | "UnsupportedTargetType" => members (fun ms => do
      let typeName ← part decodeString "type_name" ms
      let dialect ← part decodeString "dialect" ms
      let reason ← part decodeString "reason" ms
      let path ← part decodeString "path" ms
      return .unsupportedTarget typeName dialect reason path) content
  | "MalformedTypeString" => members (fun ms => do
      let input ← part decodeString "input" ms
      let position ← part decodePosition "position" ms
      let reason ← part decodeString "reason" ms
      return .malformed input position reason) content
  | "SourceSchema" => single (fun j => (decodeString j).map .sourceSchema) content
  | "Config" => single (fun j => (decodeConfigError j).map .config) content
  | _ => .error .shape

end SchemaBridge.Wire
