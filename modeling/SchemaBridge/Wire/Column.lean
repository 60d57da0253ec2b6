import SchemaBridge.Hive.Column
import SchemaBridge.Wire.Mismatch

/-!
# Hive columns in JSON

A comment that is missing is not written.
-/

namespace SchemaBridge.Wire

open Hive (Column)

def encodeColumn (c : Column) : Json :=
  .object ([("name", .string c.name), ("type", .string c.type)] ++
    (c.comment.map fun text => ("comment", .string text)).toList ++
    [("nullable", .bool c.nullable)])

def encodeColumns (columns : List Column) : Json := .array (columns.map encodeColumn)

def decodeColumn (j : Json) : Except Mismatch Column := do
  let parts ← required (parts? ["name", "type", "comment", "nullable"] j)
  let name ← part decodeString "name" parts
  let type ← part decodeString "type" parts
  let comment ← partD none (decodeNullable decodeString) "comment" parts
  let nullable ← part decodeBool "nullable" parts
  return ⟨name, type, comment, nullable⟩

end SchemaBridge.Wire
