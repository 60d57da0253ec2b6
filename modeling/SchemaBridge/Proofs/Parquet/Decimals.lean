import SchemaBridge.Parquet.Import
import SchemaBridge.Proofs.Except

/-!
# Decimals of Parquet nodes

A primitive that is a decimal by its logical type states its precision and its scale twice, in the logical
type and in its storage. In every node that is built they are the same (`Node.CarriesDecimals`):
`carriesDecimals_of_build` for described nodes, `carriesDecimals_of_readMessage` for message texts.
-/

namespace SchemaBridge.Parquet

mutual

/-- Where a primitive is a decimal by its logical type, its storage has the same attributes. -/
def Node.CarriesDecimals : Node → Prop
  | .primitive info storage => ∀ scale precision, info.logical = some (.decimal scale precision) →
      storage.precision = precision ∧ storage.scale = scale
  | .group _ fields => CarryDecimals fields

def CarryDecimals : List Node → Prop
  | [] => True
  | node :: nodes => node.CarriesDecimals ∧ CarryDecimals nodes

end

theorem mkPrimitive_eq_ok {info : Info} {storage : Storage} {node : Node}
    (h : mkPrimitive info storage = .ok node) : node = .primitive info storage := by
  unfold mkPrimitive at h
  split at h
  · exact (Except.ok.inj h).symm
  · cases h

/-! ## Described nodes -/

theorem lookUp_logical_eq {word : Option String} {logical : Option Logical}
    (h : lookUp .logicalType (fun w => (Logical.ofWord? w).map some) none word = .ok logical) :
    logical = word.bind Logical.ofWord? := by
  cases word with
  | none => exact (Except.ok.inj h).symm
  | some w =>
    cases hw : Logical.ofWord? w with
    | none => simp [lookUp, hw] at h
    | some l =>
      simp only [lookUp, hw, Option.map_some, Except.ok.injEq] at h
      simp [← h, hw]

/-- Only one word names a decimal. -/
theorem eq_decimal_of_ofWord? {w : String} {scale precision : Int32}
    (h : Logical.ofWord? w = some (.decimal scale precision)) : w = "DECIMAL" := by
  unfold Logical.ofWord? at h
  split at h <;> simp_all

/-- A described decimal has the attributes of its outline. -/
theorem Outline.logicalType?_decimal {o : Outline} {scale precision : Int32}
    (h : o.logicalType? = .ok (some (.decimal scale precision))) :
    o.precision = precision ∧ o.scale = scale := by
  unfold Outline.logicalType? at h
  split at h
  case h_2 =>
    simp only [Except.ok.injEq, Option.some.injEq, Logical.decimal.injEq] at h
    exact ⟨h.2, h.1⟩
  case h_6 hdecimal _ _ _ =>
    obtain ⟨w, hword, hw⟩ := Option.bind_eq_some_iff.1 (lookUp_logical_eq h).symm
    exact absurd (hword.trans (congrArg some (eq_decimal_of_ofWord? hw))) hdecimal
  all_goals simp at h

mutual

/-- **A node that is built from a description carries its decimals.** -/
theorem carriesDecimals_of_build {draft : Draft} {node : Node} (h : draft.build = .ok node) :
    node.CarriesDecimals := by
  match draft with
  | .primitive outline physical =>
    simp only [Draft.build, bind_eq_ok_iff] at h
    obtain ⟨info, hinfo, physical, -, h⟩ := h
    rw [mkPrimitive_eq_ok h, Node.CarriesDecimals]
    intro scale precision hlogical
    simp only [Outline.info, bind_eq_ok_iff, pure_eq_ok_iff] at hinfo
    obtain ⟨repetition, -, converted, -, logical, hl, rfl⟩ := hinfo
    subst hlogical
    exact Outline.logicalType?_decimal hl
  | .group outline fields =>
    simp only [Draft.build, bind_eq_ok_iff, pure_eq_ok_iff] at h
    obtain ⟨info, -, nodes, hnodes, rfl⟩ := h
    exact carryDecimals_of_buildAll hnodes

theorem carryDecimals_of_buildAll {drafts : List Draft} {nodes : List Node}
    (h : buildAll drafts = .ok nodes) : CarryDecimals nodes := by
  match drafts with
  | [] =>
    cases h
    trivial
  | draft :: drafts =>
    simp only [buildAll, bind_eq_ok_iff, pure_eq_ok_iff] at h
    obtain ⟨node, hnode, nodes, hnodes, rfl⟩ := h
    exact ⟨carriesDecimals_of_build hnode, carryDecimals_of_buildAll hnodes⟩

end

/-! ## Message texts -/

namespace Reader

/-- Whatever the reader yields satisfies `P`. -/
def Yields {α : Type} (P : α → Prop) (reader : Reader α) : Prop :=
  ∀ c c' a, reader c = .ok (a, c') → P a

namespace Yields

variable {α β : Type} {P : α → Prop} {Q : β → Prop}

theorem pure {a : α} (h : P a) : Yields P (Pure.pure a : Reader α) := by
  intro c c' a' ha
  cases ha
  exact h

theorem throw (fault : Fault) : Yields P (MonadExcept.throw fault : Reader α) := by
  intro c c' a ha
  cases ha

theorem lift {r : Except Fault α} (h : ∀ a, r = .ok a → P a) : Yields P (liftM r : Reader α) := by
  intro c c' a ha
  cases r with
  | error e => cases ha
  | ok a' =>
    cases ha
    exact h a rfl

theorem bind {reader : Reader β} {f : β → Reader α} (h : Yields Q reader)
    (hf : ∀ b, Q b → Yields P (f b)) : Yields P (reader >>= f) := by
  intro c c' a ha
  change reader c >>= (fun r => f r.1 r.2) = _ at ha
  obtain ⟨⟨b, d⟩, hb, ha⟩ := bind_eq_ok_iff.1 ha
  exact hf b (h c d b hb) d c' a ha

/-- What is yielded depends on the last step alone. -/
theorem last {reader : Reader β} {f : β → Reader α} (h : ∀ b, Yields P (f b)) :
    Yields P (reader >>= f) :=
  bind (Q := fun _ => True) (fun _ _ _ _ => trivial) fun b _ => h b

end Yields

/-- The storage of a primitive takes the decimal attributes from the logical type. -/
theorem carriesDecimals_of_mkPrimitive {info : Info} {physical : Physical} {length : Int32} {node : Node}
    (h : mkPrimitive info ⟨physical, length, (decimalAttributes info.logical).1,
      (decimalAttributes info.logical).2⟩ = .ok node) : node.CarriesDecimals := by
  rw [mkPrimitive_eq_ok h, Node.CarriesDecimals]
  intro scale precision hlogical
  rw [hlogical]
  exact ⟨rfl, rfl⟩

theorem yields_primitive (repetition : Source.Repetition) (physical : Physical) :
    Yields Node.CarriesDecimals (primitive repetition physical) := by
  unfold primitive
  -- Only a type of fixed length is followed by its length.
  split
  · exact .last fun _ => .last fun _ => .last fun _ => .last fun length => .last fun name =>
      .last fun refinement => .last fun _ => .last fun _ => .lift fun node h =>
        carriesDecimals_of_mkPrimitive h
  · exact .last fun length => .last fun name => .last fun refinement => .last fun _ => .last fun _ =>
      .lift fun node h => carriesDecimals_of_mkPrimitive h

mutual

theorem yields_field (fuel : Nat) : Yields Node.CarriesDecimals (field fuel) := by
  match fuel with
  | 0 => exact .throw _
  | fuel + 1 =>
    rw [field]
    refine .last fun repetition => .last fun type => ?_
    by_cases hgroup : Text.upper type = "GROUP"
    · simp only [hgroup, if_true]
      exact .last fun name => .last fun refinement => .last fun _ =>
        (yields_fieldList fuel).bind fun fields hfields => .pure hfields
    · simp only [hgroup, if_false]
      split
      · exact yields_primitive repetition _
      · exact .throw _

theorem yields_fieldList (fuel : Nat) : Yields CarryDecimals (fieldList fuel) := by
  match fuel with
  | 0 => exact .throw _
  | fuel + 1 =>
    rw [fieldList]
    exact .last fun _ => yields_fields fuel

theorem yields_fields (fuel : Nat) : Yields CarryDecimals (fields fuel) := by
  match fuel with
  | 0 => exact .throw _
  | fuel + 1 =>
    rw [fields]
    refine .last fun token => ?_
    split
    · exact .pure trivial
    · exact .pure trivial
    · exact .last fun _ => (yields_field fuel).bind fun node hnode =>
        (yields_fields fuel).bind fun nodes hnodes => .pure ⟨hnode, hnodes⟩

end

theorem yields_message (fuel : Nat) : Yields Node.CarriesDecimals (message fuel) := by
  rw [message]
  refine .last fun token => ?_
  split
  · exact .last fun _ => .last fun _ => (yields_fieldList fuel).bind fun fields hfields => .pure hfields
  · exact .last fun _ => (yields_fieldList fuel).bind fun fields hfields => .pure hfields

end Reader

/-- **The root of a message text carries its decimals.** -/
theorem carriesDecimals_of_readMessage {text : String} {root : Node} (h : readMessage text = .ok root) :
    root.CarriesDecimals := by
  obtain ⟨⟨node, c⟩, hread, rfl⟩ := map_eq_ok_iff.1 h
  exact Reader.yields_message _ _ _ _ hread

end SchemaBridge.Parquet
