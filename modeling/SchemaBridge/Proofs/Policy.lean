import SchemaBridge.Proofs.Hive.Column
import SchemaBridge.Proofs.Source.Places

/-!
# What policies decide

Policies are ordered, rejecting below widening. `Extends P r r'` compares two runs of one conversion: the
second yields what the first yields, and where it alone succeeds, the error of the first satisfies `P`.
Conversions are put together by `Extends.bind`, `Extends.map`, `Extends.mapM` and `Extends.within`, so that
what holds where a policy is looked at (`extends_widened`, `extends_primitiveType`) holds of whole types
(`extends_typeText`, `extends_columns`, `extends_typeOf`).

Main statement: `policies_decide_acceptance`, policies decide what is accepted, never the result.
-/

namespace SchemaBridge

/-! ## The order of policies -/

/-- Rejecting is below widening. -/
instance : LE Policy where
  le p q := p = .widen → q = .widen

/-- Policies are compared one by one. -/
instance : LE HivePolicies where
  le p q := p.timestampMicros ≤ q.timestampMicros ∧ p.timeOfDay ≤ q.timeOfDay ∧ p.enums ≤ q.enums

instance (p q : Policy) : Decidable (p ≤ q) := inferInstanceAs (Decidable (p = .widen → q = .widen))

instance (p q : HivePolicies) : Decidable (p ≤ q) :=
  inferInstanceAs (Decidable (p.timestampMicros ≤ q.timestampMicros ∧ p.timeOfDay ≤ q.timeOfDay ∧
    p.enums ≤ q.enums))

/-- The policy that decides on a type, if there is one. -/
def HivePolicies.policy? (policies : HivePolicies) : DataType → Option Policy
  | .timestampMicros => some policies.timestampMicros
  | .timeMillis => some policies.timeOfDay
  | .timeMicros => some policies.timeOfDay
  | .enumeration _ => some policies.enums
  | _ => none

/-! ## Two runs of a conversion -/

/-- The second run yields what the first one yields. Where it alone succeeds, the error of the first one
satisfies `P`. -/
structure Extends {ε α : Type} (P : ε → Prop) (r r' : Except ε α) : Prop where
  keeps : ∀ a, r = .ok a → r' = .ok a
  blames : ∀ a e, r' = .ok a → r = .error e → P e

namespace Extends

variable {ε α β : Type} {P Q : ε → Prop} {r r' : Except ε α}

theorem refl (r : Except ε α) : Extends P r r where
  keeps _ h := h
  blames a e h h' := by
    rw [h] at h'
    cases h'

theorem mono (h : Extends P r r') (hPQ : ∀ e, P e → Q e) : Extends Q r r' :=
  ⟨h.keeps, fun a e ha he => hPQ e (h.blames a e ha he)⟩

theorem bind {f f' : α → Except ε β} (h : Extends P r r') (hf : ∀ a, Extends P (f a) (f' a)) :
    Extends P (r >>= f) (r' >>= f') where
  keeps b hb := by
    obtain ⟨a, ha, hb⟩ := bind_eq_ok_iff.1 hb
    exact bind_eq_ok_iff.2 ⟨a, h.keeps a ha, (hf a).keeps b hb⟩
  blames b e hb he := by
    obtain ⟨a, ha, hb⟩ := bind_eq_ok_iff.1 hb
    cases r with
    | error e' =>
      cases he
      exact h.blames a e ha rfl
    | ok a' =>
      have ha' := h.keeps a' rfl
      rw [ha, Except.ok.injEq] at ha'
      subst ha'
      exact (hf a).blames b e hb he

theorem map (f : α → β) (h : Extends P r r') : Extends P (r.map f) (r'.map f) where
  keeps b hb := by
    obtain ⟨a, ha, rfl⟩ := map_eq_ok_iff.1 hb
    exact map_eq_ok_iff.2 ⟨a, h.keeps a ha, rfl⟩
  blames b e hb he := by
    obtain ⟨a, ha, -⟩ := map_eq_ok_iff.1 hb
    exact h.blames a e ha (map_eq_error_iff.1 he)

theorem mapM {f f' : α → Except ε β} {as : List α} (h : ∀ a ∈ as, Extends P (f a) (f' a)) :
    Extends P (as.mapM f) (as.mapM f') := by
  induction as with
  | nil => exact .refl _
  | cons a as ih =>
    obtain ⟨head, tail⟩ := List.forall_mem_cons.1 h
    rw [List.mapM_cons, List.mapM_cons]
    exact head.bind fun b => (ih tail).bind fun bs => .refl _

/-- An error may be seen from an enclosing member if `P` does not depend on its path. -/
theorem within {P : SchemaError → Prop} {r r' : Except SchemaError α} (segment : String)
    (hP : ∀ e, P e → P (e.within segment)) (h : Extends P r r') :
    Extends P (within segment r) (SchemaBridge.within segment r') where
  keeps a ha := within_eq_ok_iff.2 (h.keeps a (within_eq_ok_iff.1 ha))
  blames a e ha he := by
    cases r with
    | ok a' => cases he
    | error e' =>
      cases he
      exact hP e' (h.blames a e' (within_eq_ok_iff.1 ha) rfl)

end Extends

/-! ## Hive texts -/

namespace Hive

section
variable {p q : HivePolicies}

/-- The error blames one of the types, on which one set of policies rejects and the other one widens. -/
def BlamesType (p q : HivePolicies) (types : List DataType) (e : SchemaError) : Prop :=
  ∃ t ∈ types, p.policy? t = some .reject ∧ q.policy? t = some .widen ∧
    ∃ path, e = .unsupportedTarget t.typeName "hive" "no exact counterpart and widening is disabled" path

theorem BlamesType.mono {types types' : List DataType} (hsub : types ⊆ types') (e : SchemaError)
    (h : BlamesType p q types e) : BlamesType p q types' e := by
  obtain ⟨t, ht, hrest⟩ := h
  exact ⟨t, hsub ht, hrest⟩

/-- A part of a type may be blamed for the type, seen from the member `segment`. -/
theorem extends_within {types types' : List DataType} {α : Type} {r r' : Except SchemaError α}
    (segment : String) (hsub : types ⊆ types') (h : Extends (BlamesType p q types) r r') :
    Extends (BlamesType p q types') (within segment r) (within segment r') := by
  refine (h.within segment fun e he => ?_).mono (BlamesType.mono hsub)
  obtain ⟨t, ht, hp, hq, path, rfl⟩ := he
  exact ⟨t, ht, hp, hq, joinPath segment path, rfl⟩

/-- A type that a policy decides on is widened under the greater policy if it is under the lesser one. -/
theorem extends_widened {t : DataType} {policy policy' : Policy} {text : String}
    (hp : p.policy? t = some policy) (hq : q.policy? t = some policy') (hle : policy ≤ policy') :
    Extends (BlamesType p q [t]) (widened policy t.typeName text) (widened policy' t.typeName text) where
  keeps s hs := by
    obtain ⟨hw, rfl⟩ := widened_eq_ok_iff.1 hs
    exact widened_eq_ok_iff.2 ⟨hle hw, rfl⟩
  blames s e hs he := by
    obtain ⟨rfl, -⟩ := widened_eq_ok_iff.1 hs
    cases policy with
    | widen => cases he
    | reject =>
      cases he
      exact ⟨t, List.mem_singleton_self t, hp, hq, "", rfl⟩

/-- Columns do not depend on the policies if the texts of their types do not. -/
theorem extends_mapM_ofField {fields : List Field}
    (h : ∀ f ∈ fields, Extends (BlamesType p q f.type.walk) (typeText p f.type) (typeText q f.type)) :
    Extends (BlamesType p q (DataType.walkFields fields)) (fields.mapM (Column.ofField p))
      (fields.mapM (Column.ofField q)) := by
  refine Extends.mapM fun f hf => ?_
  have hsub : f.type.walk ⊆ DataType.walkFields fields := fun u hu =>
    DataType.mem_walkFields_iff.2 ⟨f, hf, hu⟩
  exact (extends_within f.name hsub (h f hf)).bind fun text => .refl _

/-- **A type text does not depend on the policies.** The error of a type that the lesser policies alone
refuse blames a type in it on which they differ. -/
theorem extends_typeText (hle : p ≤ q) (t : DataType) :
    Extends (BlamesType p q t.walk) (typeText p t) (typeText q t) := by
  obtain ⟨htimestamp, htime, henum⟩ := hle
  induction t using DataType.induction with
  | primitive t ht =>
    cases t with
    | timestampMicros => exact extends_widened rfl rfl htimestamp
    | timeMillis => exact extends_widened rfl rfl htime
    | timeMicros => exact extends_widened rfl rfl htime
    | enumeration symbols => exact extends_widened (t := .enumeration symbols) rfl rfl henum
    | record | array | map => cases ht
    | _ => exact .refl _
  | record fields ih =>
    have hm := (extends_mapM_ofField ih).mono (BlamesType.mono (List.subset_cons_self (.record fields) _))
    rw [typeText, typeText, memberTexts_eq_map_mapM, memberTexts_eq_map_mapM, DataType.walk]
    exact (Extends.refl _).bind fun u => (hm.map _).bind fun members => .refl _
  | array element ih =>
    rw [typeText, typeText, DataType.walk]
    exact (extends_within "element" (List.subset_cons_self ..) ih).bind fun text => .refl _
  | map key value ihk ihv =>
    have hk := extends_within "key"
      (List.subset_cons_of_subset (.map key value) (List.subset_append_left _ value.walk)) ihk
    have hv := extends_within "value"
      (List.subset_cons_of_subset (.map key value) (List.subset_append_right key.walk _)) ihv
    rw [typeText, typeText, DataType.walk]
    cases key.isPrimitive with
    | false => exact .refl _
    | true => exact hk.bind fun keyText => hv.bind fun valueText => .refl _

theorem extends_columns (hle : p ≤ q) (fields : List Field) :
    Extends (BlamesType p q (DataType.walkFields fields)) (columns p fields) (columns q fields) :=
  (Extends.refl _).bind fun _ => extends_mapM_ofField fun f _ => extends_typeText hle f.type

end

end Hive

/-! ## Source trees -/

namespace Source

/-- The error blames a column among the places that holds unsigned integers. -/
def BlamesColumn (places : List Place) (e : SchemaError) : Prop :=
  ∃ place ∈ places, ∃ name repetition physical width,
    place.node = .primitive name repetition physical (some (.integer width false)) ∧
      (physical = .int32 ∨ physical = .int64) ∧
      ∃ path, e = .unsupportedSource physical.label (Refinement.integer width false).label path

theorem BlamesColumn.mono {places places' : List Place} (hsub : places ⊆ places') (e : SchemaError)
    (h : BlamesColumn places e) : BlamesColumn places' e := by
  obtain ⟨place, hp, hrest⟩ := h
  exact ⟨place, hsub hp, hrest⟩

theorem extends_widenUnsigned (physical : Physical) (refinement : Refinement) (wider : DataType) :
    Extends (· = unsupported physical (some refinement))
      (widenUnsigned .reject physical refinement wider)
      (widenUnsigned .widen physical refinement wider) where
  keeps t h := by cases h
  blames t e _ h := by
    cases h
    rfl

theorem primitiveType_int64_unsigned (policies : SourcePolicies) (width : UInt8) :
    primitiveType policies .int64 (some (.integer width false)) =
      if width = 64 then
        widenUnsigned policies.unsigned .int64 (.integer width false) (.decimal 20 0)
      else .error (unsupported .int64 (some (.integer width false))) := rfl

/-- A column is read alike where unsigned integers are rejected and where they are widened. -/
theorem extends_primitiveType (physical : Physical) (refinement : Option Refinement) :
    Extends (fun e => e = unsupported physical refinement ∧ (physical = .int32 ∨ physical = .int64) ∧
        ∃ width, refinement = some (.integer width false))
      (primitiveType { unsigned := .reject } physical refinement)
      (primitiveType { unsigned := .widen } physical refinement) := by
  -- Only unsigned integers look at the policy.
  cases refinement with
  | none => cases physical <;> exact .refl _
  | some a =>
    cases a with
    | integer width signed =>
      cases signed with
      | true => cases physical <;> exact .refl _
      | false =>
        cases physical with
        | int32 =>
          rw [primitiveType_int32_unsigned, primitiveType_int32_unsigned]
          cases unsignedType? width with
          | none => exact .refl _
          | some t =>
            exact (extends_widenUnsigned .int32 (.integer width false) t).mono fun e he =>
              ⟨he, .inl rfl, width, rfl⟩
        | int64 =>
          rw [primitiveType_int64_unsigned, primitiveType_int64_unsigned]
          split
          · exact (extends_widenUnsigned .int64 (.integer width false) (.decimal 20 0)).mono fun e he =>
              ⟨he, .inr rfl, width, rfl⟩
          · exact .refl _
        | _ => exact .refl _
    | _ => cases physical <;> exact .refl _

/-- A node is read alike under both policies, wherever it stands. -/
def ReadAlike (node : Node) : Prop :=
  ∀ holder, Extends (BlamesColumn (node.places holder)) (typeOf { unsigned := .reject } node)
    (typeOf { unsigned := .widen } node)

theorem extends_held {node : Node} {holder : Option Node} {places : List Place} (h : ReadAlike node)
    (hsub : node.places holder ⊆ places) :
    Extends (BlamesColumn places) (held node (typeOf { unsigned := .reject } node))
      (held node (typeOf { unsigned := .widen } node)) := by
  have hmap := (h holder).map (occurring node.repetition)
  refine (hmap.within node.name fun e he => ?_).mono (BlamesColumn.mono hsub)
  obtain ⟨place, hp, name, repetition, physical, width, hnode, hphysical, path, rfl⟩ := he
  exact ⟨place, hp, name, repetition, physical, width, hnode, hphysical, joinPath node.name path, rfl⟩

theorem extends_fieldsOf {nodes : List Node} (holder : Node) (h : ∀ c ∈ nodes, ReadAlike c) :
    Extends (BlamesColumn (placesIn holder nodes)) (fieldsOf { unsigned := .reject } nodes)
      (fieldsOf { unsigned := .widen } nodes) := by
  induction nodes with
  | nil => exact .refl _
  | cons node nodes ih =>
    obtain ⟨head, tail⟩ := List.forall_mem_cons.1 h
    rw [fieldsOf, fieldsOf, placesIn]
    have hnodes := (ih tail).mono
      (BlamesColumn.mono (List.subset_append_right (node.places (some holder)) _))
    exact (extends_held head (List.subset_append_left _ _)).bind fun type =>
      hnodes.bind fun fields => .refl _

theorem extends_onlyFieldOf {node : Node} {holder : Option Node} (h : ∀ d ∈ node.children, ReadAlike d) :
    Extends (BlamesColumn (node.places holder)) (onlyFieldOf { unsigned := .reject } node)
      (onlyFieldOf { unsigned := .widen } node) := by
  unfold onlyFieldOf
  split
  · rename_i name repetition refinement d
    have hsub : d.places (some (.group name repetition refinement [d])) ⊆
        (Node.group name repetition refinement [d]).places holder := by
      rw [places_eq_cons holder]
      exact List.subset_cons_of_subset _ (places_subset_placesIn (List.mem_cons_self ..))
    exact extends_held (h d (List.mem_cons_self ..)) hsub
  · exact .refl _

theorem extends_elementOf (list : String) {nodes : List Node} (holder : Node)
    (h : ∀ c ∈ nodes, ReadAlike c ∧ ∀ d ∈ c.children, ReadAlike d) :
    Extends (BlamesColumn (placesIn holder nodes)) (elementOf { unsigned := .reject } list nodes)
      (elementOf { unsigned := .widen } list nodes) := by
  unfold elementOf
  split
  · rename_i node
    obtain ⟨hnode, hchildren⟩ := h node (List.mem_singleton_self node)
    rw [placesIn_singleton]
    split
    · split
      · exact hnode _
      · exact extends_onlyFieldOf hchildren
    · exact .refl _
  · exact .refl _

theorem extends_entriesOf (label : String) {nodes : List Node} (holder : Node)
    (h : ∀ c ∈ nodes, ∀ d ∈ c.children, ReadAlike d) :
    Extends (BlamesColumn (placesIn holder nodes)) (entriesOf { unsigned := .reject } label nodes)
      (entriesOf { unsigned := .widen } label nodes) := by
  unfold entriesOf
  split
  · rename_i name refinement key value
    have hall := h _ (List.mem_singleton_self _)
    have hsub : ∀ d ∈ [key, value],
        d.places (some (.group name .repeated refinement [key, value])) ⊆
          placesIn holder [.group name .repeated refinement [key, value]] := by
      intro d hd
      rw [placesIn_singleton, places_eq_cons (some holder)]
      exact List.subset_cons_of_subset _ (places_subset_placesIn hd)
    have hkey : key ∈ [key, value] := List.mem_cons_self ..
    have hvalue : value ∈ [key, value] := List.mem_cons_of_mem _ (List.mem_singleton_self value)
    exact (extends_held (hall key hkey) (hsub key hkey)).bind fun keyType =>
      (extends_held (hall value hvalue) (hsub value hvalue)).bind fun valueType => .refl _
  · exact .refl _

/-- **An imported type does not depend on the policies.** The error of a tree that is refused where
unsigned integers are rejected, and only there, blames a column of the tree that holds some. -/
theorem extends_typeOf (node : Node) : ReadAlike node := by
  induction node using Node.induction with
  | primitive name repetition physical refinement =>
    intro holder
    rw [typeOf, typeOf]
    refine (extends_primitiveType physical refinement).mono fun e he => ?_
    obtain ⟨rfl, hphysical, width, rfl⟩ := he
    exact ⟨_, List.mem_singleton_self _, name, repetition, physical, width, rfl, hphysical, "", rfl⟩
  | group name repetition refinement fields ih =>
    intro holder
    have hsub := List.subset_cons_self ⟨holder, .group name repetition refinement fields⟩
      (placesIn (.group name repetition refinement fields) fields)
    have hentries := fun label =>
      (extends_entriesOf label (.group name repetition refinement fields) fun c hc =>
        (ih c hc).2).mono (BlamesColumn.mono hsub)
    rw [places_eq_cons, Node.children]
    cases refinement with
    | none =>
      have hfields := (extends_fieldsOf (.group name repetition none fields) fun c hc =>
        (ih c hc).1).mono (BlamesColumn.mono hsub)
      rw [typeOf, typeOf]
      split
      · exact .refl _
      · exact hfields.bind fun fs => .refl _
    | some a =>
      cases a with
      | list =>
        have helement := (extends_elementOf name (.group name repetition (some .list) fields)
          ih).mono (BlamesColumn.mono hsub)
        exact helement.map DataType.array
      | map => exact hentries "MAP"
      | mapKeyValue => exact hentries "MAP_KEY_VALUE"
      | _ => exact .refl _

end Source

/-! ## Acceptance -/

/-- **Policies decide what is accepted, never the result.** What is imported where unsigned integers are
rejected is imported where they are widened, as the same type; a tree that is refused for the policy alone
is refused for an unsigned column in it. What has a type text, or columns, under some policies has the same
under greater ones; what is refused for the policies alone is refused for a type on which they differ. -/
theorem policies_decide_acceptance :
    (∀ node t, Source.typeOf { unsigned := .reject } node = .ok t →
      Source.typeOf { unsigned := .widen } node = .ok t) ∧
    (∀ node t e, Source.typeOf { unsigned := .widen } node = .ok t →
      Source.typeOf { unsigned := .reject } node = .error e →
        Source.BlamesColumn (node.places none) e) ∧
    ∀ p q : HivePolicies, p ≤ q →
      (∀ t s, Hive.typeText p t = .ok s → Hive.typeText q t = .ok s) ∧
      (∀ fields cols, Hive.columns p fields = .ok cols → Hive.columns q fields = .ok cols) ∧
      (∀ t s e, Hive.typeText q t = .ok s → Hive.typeText p t = .error e →
        Hive.BlamesType p q t.walk e) ∧
      ∀ fields cols e, Hive.columns q fields = .ok cols → Hive.columns p fields = .error e →
        Hive.BlamesType p q (DataType.walkFields fields) e := by
  refine ⟨fun node => (Source.extends_typeOf node none).keeps,
    fun node => (Source.extends_typeOf node none).blames, fun p q hle => ⟨?_, ?_, ?_, ?_⟩⟩
  · exact fun t => (Hive.extends_typeText hle t).keeps
  · exact fun fields => (Hive.extends_columns hle fields).keeps
  · exact fun t => (Hive.extends_typeText hle t).blames
  · exact fun fields => (Hive.extends_columns hle fields).blames

/-- A list of 16-bit numbers, with or without a sign. -/
def countsTree (signed : Bool) : Source.Node :=
  .group "root" .required none [
    .group "counts" .optional (some .list) [
      .group "list" .repeated none [
        .primitive "count" .required .int32 (some (.integer 16 signed))]],
    .primitive "id" .required .int64 none]

/-- Fields that are widened under different policies. -/
def stampFields : List Field := [
  ⟨"at", .map .string (.array .timestampMicros), false⟩,
  ⟨"kind", .enumeration ["x", "y"], true⟩]

/-- Policies that admit enumerations, with or without timestamps. -/
def stampPolicies (timestampMicros : Policy) : HivePolicies := ⟨timestampMicros, .reject, .widen⟩

/-- The refusal of the timestamps in `stampFields`. -/
def stampError : SchemaError :=
  .unsupportedTarget "timestamp_micros" "hive" "no exact counterpart and widening is disabled"
    "at.value.element"

theorem policies_decide_counts_and_stamps :
    Source.typeOf { unsigned := .widen } (countsTree true) =
        .ok (.record [⟨"counts", .array .int16, true⟩, ⟨"id", .int64, false⟩]) ∧
      Source.typeOf { unsigned := .widen } (countsTree false) =
        .ok (.record [⟨"counts", .array .int32, true⟩, ⟨"id", .int64, false⟩]) ∧
      Source.BlamesColumn ((countsTree false).places none)
        (.unsupportedSource "INT32" "UINT_16" "counts.count") ∧
      stampPolicies .reject ≤ stampPolicies .widen ∧
      Hive.typeText (stampPolicies .widen) (.array (.enumeration ["x"])) = .ok "array<string>" ∧
      Hive.columns (stampPolicies .widen) [⟨"kind", .enumeration ["x"], true⟩] =
        .ok [{ name := "kind", type := "string", nullable := true }] ∧
      Hive.BlamesType (stampPolicies .reject) (stampPolicies .widen) (DataType.record stampFields).walk
        stampError ∧
      Hive.BlamesType (stampPolicies .reject) (stampPolicies .widen) (DataType.walkFields stampFields)
        stampError := by
  obtain ⟨htree, hcolumn, hhive⟩ := policies_decide_acceptance
  have hsigned : Source.typeOf { unsigned := .reject } (countsTree true) =
      .ok (.record [⟨"counts", .array .int16, true⟩, ⟨"id", .int64, false⟩]) := by decide +kernel
  have hwidened : Source.typeOf { unsigned := .widen } (countsTree false) =
      .ok (.record [⟨"counts", .array .int32, true⟩, ⟨"id", .int64, false⟩]) := by decide +kernel
  have hrefused : Source.typeOf { unsigned := .reject } (countsTree false) =
      .error (.unsupportedSource "INT32" "UINT_16" "counts.count") := by decide +kernel
  have hle : stampPolicies .reject ≤ stampPolicies .widen := by decide
  obtain ⟨htext, hcolumns, htype, hfield⟩ := hhive _ _ hle
  have hstruct : Hive.typeText (stampPolicies .widen) (.record stampFields) =
      .ok "struct<at:map<string,array<timestamp>>,kind:string>" := by decide +kernel
  have hstruct' : Hive.typeText (stampPolicies .reject) (.record stampFields) = .error stampError := by
    decide +kernel
  have hlist : Hive.columns (stampPolicies .widen) stampFields = .ok [
      { name := "at", type := "map<string,array<timestamp>>", nullable := false },
      { name := "kind", type := "string", nullable := true }] := by decide +kernel
  have hlist' : Hive.columns (stampPolicies .reject) stampFields = .error stampError := by
    decide +kernel
  exact ⟨htree _ _ hsigned, hwidened, hcolumn _ _ _ hwidened hrefused, hle,
    htext _ _ (by decide +kernel), hcolumns _ _ (by decide +kernel), htype _ _ _ hstruct hstruct',
    hfield _ _ _ hlist hlist'⟩

end SchemaBridge
