import SchemaBridge.Proofs.Except
import SchemaBridge.Wire.Column
import SchemaBridge.Wire.Error
import SchemaBridge.Wire.Source

/-!
# Source trees, columns and errors in JSON

What has been written is read back: `decodeNode_encodeNode`, `decodeColumn_encodeColumn` and
`decodeError_encodeError`. A value is written as the name of a variant, as the one member of an object, or
as the members of one; the parts of it are read by their names (`part_cons`, `partD_cons`).
-/

namespace SchemaBridge.Wire

/-! ## Numbers and parts -/

theorem nat?_nat {bound n : Nat} (h : n ≤ bound) : (Json.nat n).nat? bound = some n := by
  simp only [Json.nat, Json.nat?]
  rw [if_pos ⟨by omega, by omega⟩, Int.toNat_natCast]

@[simp] theorem decodeString_string (text : String) : decodeString (.string text) = .ok text := rfl

@[simp] theorem decodeBool_bool (b : Bool) : decodeBool (.bool b) = .ok b := rfl

@[simp] theorem decodeUInt32_uint32 (n : UInt32) : decodeUInt32 (.uint32 n) = .ok n := by
  have hn : n.toNat ≤ 4294967295 := Nat.le_of_lt_succ n.toNat_lt
  simp [decodeUInt32, Json.uint32, Json.uint32?, nat?_nat hn, required]

@[simp] theorem decodeBitWidth_nat (n : UInt8) : decodeBitWidth (.nat n.toNat) = .ok n := by
  have hn : n.toNat ≤ 255 := Nat.le_of_lt_succ n.toNat_lt
  simp [decodeBitWidth, nat?_nat hn, required]

section
variable {α : Type} {decode : Json → Except Mismatch α} {name key : String} {j : Json}
  {parts : List (String × Json)}

theorem lookup_cons_eq_ite :
    ((key, j) :: parts).lookup name = if name = key then some j else parts.lookup name := by
  by_cases h : name = key
  · subst h
    simp
  · have hne : (name == key) = false := by simpa using h
    rw [if_neg h, List.lookup_cons, hne]

@[simp] theorem part_cons :
    part decode name ((key, j) :: parts) = if name = key then decode j else part decode name parts := by
  by_cases h : name = key <;> simp [part, lookup_cons_eq_ite, h]

@[simp] theorem partD_cons {default : α} : partD default decode name ((key, j) :: parts) =
    if name = key then decode j else partD default decode name parts := by
  by_cases h : name = key <;> simp [partD, lookup_cons_eq_ite, h]

@[simp] theorem partD_nil {default : α} : partD default decode name [] = .ok default := rfl

end

/-! ## Source trees -/

section
open Source

@[simp] theorem decodePhysical_encodePhysical (p : Physical) :
    decodePhysical (encodePhysical p) = .ok p := by
  cases p with
  | fixedLenByteArray length =>
    simp [decodePhysical, encodePhysical, variant?, required, members, ok_bind]
  | _ => rfl

@[simp] theorem decodeRepetition_encodeRepetition (r : Repetition) :
    decodeRepetition (encodeRepetition r) = .ok r := by
  cases r <;> rfl

@[simp] theorem decodeNullable_encodeAttribute (n? : Option UInt32) :
    decodeNullable decodeUInt32 (encodeAttribute n?) = .ok n? := by
  cases n? with
  | none => rfl
  | some n => exact map_eq_ok_iff.2 ⟨n, decodeUInt32_uint32 n, rfl⟩

theorem decodeRefinement_encodeRefinement (a : Refinement) :
    decodeRefinement (encodeRefinement a) = .ok a := by
  cases a with
  | decimal precision scale =>
    simp [decodeRefinement, encodeRefinement, variant?, required, members, decodeDecimal, ok_bind]
  | integer bitWidth signed =>
    simp [decodeRefinement, encodeRefinement, variant?, required, members, decodeInteger, ok_bind]
  | _ => rfl

@[simp] theorem decodeNullable_encodeRefinement? (a? : Option Refinement) :
    decodeNullable decodeRefinement (encodeRefinement? a?) = .ok a? := by
  cases a? with
  | none => rfl
  | some a =>
    have h := decodeRefinement_encodeRefinement a
    cases a <;> exact map_eq_ok_iff.2 ⟨_, h, rfl⟩

theorem nodesAt_cons_of_ne {key : String} {j : Json} {ms : List (String × Json)} (h : key ≠ "fields") :
    nodesAt ((key, j) :: ms) = nodesAt ms := by
  cases j <;> simp [nodesAt, h]

mutual

/-- **A source tree that has been written is read back.** -/
theorem decodeNode_encodeNode (node : Node) : decodeNode (encodeNode node) = .ok node := by
  match node with
  | .primitive name repetition physical refinement => simp [encodeNode, decodeNode, ok_bind]
  | .group name repetition refinement fields =>
    have hfields := decodeNodes_encodeNodes fields
    simp [encodeNode, decodeNode, nodesAt_cons_of_ne, nodesAt, hfields, ok_bind]

theorem decodeNodes_encodeNodes (nodes : List Node) : decodeNodes (encodeNodes nodes) = .ok nodes := by
  match nodes with
  | [] => rfl
  | node :: nodes =>
    rw [encodeNodes, decodeNodes, decodeNode_encodeNode node, decodeNodes_encodeNodes nodes]
    rfl

end

end

/-! ## Columns -/

/-- **A column that has been written is read back**, its comment included. -/
theorem decodeColumn_encodeColumn (c : Hive.Column) : decodeColumn (encodeColumn c) = .ok c := by
  obtain ⟨name, type, comment, nullable⟩ := c
  cases comment <;>
    simp [encodeColumn, decodeColumn, parts?, required, decodeNullable, ok_bind, Except.map]

/-! ## Errors -/

theorem decodeConfigError_encodeConfigError (e : ConfigError) :
    decodeConfigError (encodeConfigError e) = .ok e := by
  cases e with
  | load sourceName reason =>
    simp [decodeConfigError, encodeConfigError, variant?, required, members, ok_bind]
  | render reason => rfl

/-- A position that the error names is a number of 64 bits. -/
def HasPosition64 (e : SchemaError) : Prop :=
  ∀ input position reason, e = .malformed input position reason → position < UInt64.size

/-- **An error that has been written is read back.** -/
theorem decodeError_encodeError {e : SchemaError} (h : HasPosition64 e) :
    decodeError (encodeError e) = .ok e := by
  cases e with
  | malformed input position reason =>
    have hp : decodePosition (.nat position) = .ok position := by
      rw [decodePosition, nat?_nat (Nat.le_of_lt_succ (h input position reason rfl)), required]
    simp [decodeError, encodeError, variant?, required, members, ok_bind, hp]
  | config error =>
    have he := decodeConfigError_encodeConfigError error
    simp [decodeError, encodeError, variant?, required, single, he, ok_bind, Except.map]
  | sourceSchema reason => rfl
  | _ => simp [decodeError, encodeError, variant?, required, members, ok_bind]

end SchemaBridge.Wire
