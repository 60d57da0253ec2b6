import SchemaBridge.Parquet.Draft
import SchemaBridge.Wire.Mismatch

/-!
# Described Parquet nodes in JSON

An object describes a node by the words of the format. It is a group if it has a member `fields`.
-/

namespace SchemaBridge.Wire

open Parquet

/-- A number of 32 bits with a sign. -/
def decodeInt32 : Json → Except Mismatch Int32
  | .number (.integer n) => .ok (Int32.ofInt n)
  | _ => .error .shape

/-- The resolution that a word names; milliseconds if it names none. -/
def decodeUnit (j : Json) : Except Mismatch TimeUnit :=
  (decodeString j).map fun word => (TimeUnit.ofWord? word).getD .millis

def decodeOutline (ms : List (String × Json)) : Except Mismatch Outline := do
  let word := decodeNullable decodeString
  let name ← part decodeString "name" ms
  let repetition ← partD none word "repetition" ms
  let converted ← partD none word "converted" ms
  let logical ← partD none word "logical" ms
  let unit ← partD .millis decodeUnit "unit" ms
  let utc ← partD false decodeBool "utc" ms
  let signed ← partD false decodeBool "signed" ms
  let bitWidth ← partD 0 decodeInt32 "bit_width" ms
  let length ← partD (-1) decodeInt32 "length" ms
  let precision ← partD (-1) decodeInt32 "precision" ms
  let scale ← partD (-1) decodeInt32 "scale" ms
  return ⟨name, repetition, converted, logical, unit, utc, signed, bitWidth.toInt8, length, precision,
    scale⟩

mutual

/-- The described node that a JSON value stands for. -/
def decodeDraft : Json → Except Mismatch Draft
  | .object ms => do
    let outline ← decodeOutline ms
    match ← draftsAt? ms with
    | some fields => return .group outline fields
    | none => return .primitive outline (← part decodeString "physical" ms)
  | _ => .error .shape

/-- The described nodes in the member `fields`, if there is one. -/
def draftsAt? : List (String × Json) → Except Mismatch (Option (List Draft))
  | [] => .ok none
  | (key, .array items) :: ms =>
    if key = "fields" then (decodeDrafts items).map some else draftsAt? ms
  | (key, _) :: ms => if key = "fields" then .error .shape else draftsAt? ms

def decodeDrafts : List Json → Except Mismatch (List Draft)
  | [] => .ok []
  | item :: items => do
    let draft ← decodeDraft item
    let drafts ← decodeDrafts items
    return draft :: drafts

end

end SchemaBridge.Wire
