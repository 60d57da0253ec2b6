import SchemaBridge.Proofs.Source.Places

/-!
# The node that an error blames

An error about a source type starts at a node that is refused, and gets a name in front of its path each time
it leaves a field of a record, the element of a three-level list, or a key or a value of a map. A `Step` goes
down from a group to a node that is read for it, with the names that an error gets on its way back and the
nodes that are read before. A `Way` is a sequence of steps. A node is refused with some path exactly if a way
with the names of that path leads down from it to a node that is refused with an empty one, and the nodes
passed on it have types (`typeOf_eq_refusal_iff`).

Main statement: `recordOf_blames_first_offender`.
-/

namespace SchemaBridge.Source

variable {policies : SourcePolicies} {storage annotation path : String}

/-! ## Columns -/

/-- The only error about a source type, if there is one, is the refusal. -/
structure RefusesAs (refusal : SchemaError) (r : Except SchemaError DataType) : Prop where
  eq_refusal : ∀ e, r = .error e → e.isUnsupportedSource = true → e = refusal

namespace RefusesAs

variable {refusal : SchemaError} {r : Except SchemaError DataType}

theorem ok (t : DataType) : RefusesAs refusal (.ok t) where
  eq_refusal e h := by cases h

theorem error (refusal : SchemaError) : RefusesAs refusal (.error refusal) where
  eq_refusal e h _ := by
    cases h
    rfl

theorem invalidParameters (typeName reason : String) :
    RefusesAs refusal (.error (.invalidParameters typeName reason)) where
  eq_refusal e h he := by
    cases h
    cases he

theorem ite {r' : Except SchemaError DataType} {c : Prop} [Decidable c] (h : RefusesAs refusal r)
    (h' : RefusesAs refusal r') : RefusesAs refusal (if c then r else r') := by
  split
  · exact h
  · exact h'

end RefusesAs

theorem refusesAs_decimalType (physical : Physical) (precision scale : Option UInt32) :
    RefusesAs (unsupported physical (some (.decimal precision scale)))
      (decimalType physical precision scale) := by
  unfold decimalType
  cases precision with
  | none => exact .error _
  | some p => exact .ite (.error _) (.ite (.invalidParameters ..) (.ite (.invalidParameters ..) (.ok _)))

theorem refusesAs_widenUnsigned (policy : Policy) (physical : Physical) (a : Refinement) (wider : DataType) :
    RefusesAs (unsupported physical (some a)) (widenUnsigned policy physical a wider) := by
  cases policy with
  | widen => exact .ok wider
  | reject => exact .error _

theorem refusesAs_integer (physical : Physical) (width : UInt8) (signed : Bool) :
    RefusesAs (unsupported physical (some (.integer width signed)))
      (primitiveType policies physical (some (.integer width signed))) := by
  cases physical with
  | int32 =>
    cases signed with
    | true =>
      rw [primitiveType_int32_signed]
      cases signedType? width with
      | none => exact .error _
      | some t => exact .ok t
    | false =>
      rw [primitiveType_int32_unsigned]
      cases unsignedType? width with
      | none => exact .error _
      | some t => exact refusesAs_widenUnsigned ..
  | int64 =>
    cases signed with
    | true => exact .ite (.ok _) (.error _)
    | false => exact .ite (refusesAs_widenUnsigned ..) (.error _)
  | int96 => exact .ok _
  | boolean | float | double | byteArray | fixedLenByteArray => exact .error _

/-- A column is refused as a whole. -/
theorem refusesAs_primitiveType (physical : Physical) (refinement : Option Refinement) :
    RefusesAs (unsupported physical refinement) (primitiveType policies physical refinement) := by
  cases refinement with
  | none => cases physical <;> exact .ok _
  | some a =>
    cases a with
    | decimal p s =>
      cases physical with
      | int32 | int64 | byteArray | fixedLenByteArray => exact refusesAs_decimalType ..
      | int96 => exact .ok _
      | boolean | float | double => exact .error _
    | integer width signed => exact refusesAs_integer physical width signed
    | float16 | uuid =>
      cases physical with
      | fixedLenByteArray n => exact .ite (.ok _) (.error _)
      | int96 => exact .ok _
      | boolean | int32 | int64 | float | double | byteArray => exact .error _
    | _ => cases physical <;> first | exact .ok _ | exact .error _

/-! ## Steps -/

/-- A step down from a group to a node that is read for it. It counts the names that an error gets on its way
back, and passes the nodes that are read before. -/
inductive Step : Node → (counted : List String) → (passed : List Node) → Node → Prop
  /-- From a record to a field. -/
  | field (record : String) (repetition : Repetition) (before : List Node) (child : Node)
      (after : List Node) :
      Step (.group record repetition none (before ++ child :: after)) [child.name] before child
  /-- From a list to the element that it repeats. -/
  | repeated (list : String) (repetition : Repetition) (child : Node)
      (hrepetition : child.repetition = .repeated) (h : isElement list child = true) :
      Step (.group list repetition (some .list) [child]) [] [] child
  /-- From a list past the repeated group to the element in it. -/
  | element (list : String) (repetition : Repetition) (inner : String) (child : Node)
      (h : isElement list (.group inner .repeated none [child]) = false) :
      Step (.group list repetition (some .list) [.group inner .repeated none [child]]) [child.name] [] child
  /-- From a map past the entry group to its key. -/
  | key (map : String) (repetition : Repetition) (a : Refinement) (entries : String)
      (refinement : Option Refinement) (key value : Node) (ha : a = .map ∨ a = .mapKeyValue) :
      Step (.group map repetition (some a) [.group entries .repeated refinement [key, value]]) [key.name] []
        key
  /-- From a map past the entry group and the key to its value. -/
  | value (map : String) (repetition : Repetition) (a : Refinement) (entries : String)
      (refinement : Option Refinement) (key value : Node) (ha : a = .map ∨ a = .mapKeyValue) :
      Step (.group map repetition (some a) [.group entries .repeated refinement [key, value]]) [value.name]
        [key] value

/-- A step leads to a node of the group or to one of its nodes. -/
theorem Step.mem_children {node child : Node} {counted : List String} {passed : List Node}
    (h : Step node counted passed child) :
    child ∈ node.children ∨ ∃ c ∈ node.children, child ∈ c.children := by
  cases h with
  | field => exact .inl (by simp [Node.children])
  | repeated => exact .inl (by simp [Node.children])
  | element | key | value => exact .inr (by simp [Node.children])

/-- Induction over nodes from below, along the steps that lead down. -/
theorem Node.stepInduction {motive : Node → Prop} (node : Node)
    (step : ∀ node, (∀ counted passed child, Step node counted passed child → motive child) → motive node) :
    motive node := by
  induction node using Node.induction with
  | primitive name repetition physical refinement =>
    refine step _ fun _ _ _ h => ?_
    cases h
  | group name repetition refinement fields ih =>
    refine step _ fun _ _ child h => ?_
    rcases h.mem_children with hmem | ⟨c, hc, hmem⟩
    · exact (ih child hmem).1
    · exact (ih c hc).2 child hmem

/-! ## One step of an error -/

/-- The nodes have types. -/
def Readable (policies : SourcePolicies) (nodes : List Node) : Prop :=
  ∀ n ∈ nodes, ∃ t, typeOf policies n = .ok t

theorem within_eq_unsupportedSource_iff {segment : String} {e : SchemaError} :
    e.within segment = .unsupportedSource storage annotation path ↔
      ∃ path', e = .unsupportedSource storage annotation path' ∧ path = joinPath segment path' := by
  cases e <;> simp [SchemaError.within, eq_comm, and_assoc]

/-- An error about a node that a group holds has the name of the node in front. -/
theorem held_eq_refusal_iff {node : Node} {r : Except SchemaError DataType} :
    held node r = .error (.unsupportedSource storage annotation path) ↔
      ∃ path', r = .error (.unsupportedSource storage annotation path') ∧
        path = joinPath node.name path' := by
  rw [held, within_eq_error_iff]
  simp only [map_eq_error_iff, eq_comm (b := SchemaError.within _ _), within_eq_unsupportedSource_iff]
  constructor
  · rintro ⟨e, he, path', rfl, rfl⟩
    exact ⟨path', he, rfl⟩
  · rintro ⟨path', he, rfl⟩
    exact ⟨_, he, path', rfl, rfl⟩

theorem fieldsOf_cons_eq_error_iff {node : Node} {nodes : List Node} {e : SchemaError} :
    fieldsOf policies (node :: nodes) = .error e ↔
      held node (typeOf policies node) = .error e ∨
        (∃ t, typeOf policies node = .ok t) ∧ fieldsOf policies nodes = .error e := by
  have hheld : (∃ t, held node (typeOf policies node) = .ok t) ↔ ∃ t, typeOf policies node = .ok t := by
    simp only [held_eq_ok_iff]
    exact ⟨fun ⟨_, u, hu, _⟩ => ⟨u, hu⟩, fun ⟨u, hu⟩ => ⟨_, u, hu, rfl⟩⟩
  rw [fieldsOf, bind_eq_error_iff, ← hheld, exists_and_right.symm]
  refine or_congr_right (exists_congr fun t => and_congr_right fun _ => ?_)
  cases fieldsOf policies nodes <;> simp [bind, Except.bind, pure, Except.pure]

/-- The fields of a group fail at the first node that does. -/
theorem fieldsOf_eq_error_iff {nodes : List Node} {e : SchemaError} :
    fieldsOf policies nodes = .error e ↔ ∃ before child after, nodes = before ++ child :: after ∧
      Readable policies before ∧ held child (typeOf policies child) = .error e := by
  induction nodes with
  | nil => simp [fieldsOf]
  | cons node nodes ih =>
    rw [fieldsOf_cons_eq_error_iff, ih]
    constructor
    · rintro (h | ⟨hnode, before, child, after, rfl, hbefore, h⟩)
      · exact ⟨[], node, nodes, rfl, List.forall_mem_nil _, h⟩
      · exact ⟨node :: before, child, after, rfl, List.forall_mem_cons.2 ⟨hnode, hbefore⟩, h⟩
    · rintro ⟨before, child, after, hnodes, hbefore, h⟩
      rcases List.cons_eq_append_iff.1 hnodes with ⟨rfl, hcons⟩ | ⟨before', rfl, rfl⟩
      · cases hcons
        exact .inl h
      · obtain ⟨hnode, hbefore'⟩ := List.forall_mem_cons.1 hbefore
        exact .inr ⟨hnode, before', child, after, rfl, hbefore', h⟩

/-- Field names are no matter of source types. -/
theorem isUnsupportedSource_of_ofFields {fields : List Field} {e : SchemaError}
    (h : Record.ofFields fields = .error e) : e.isUnsupportedSource = false := by
  obtain ⟨flaw, -, rfl⟩ := Record.ofFields_eq_error_iff.1 h
  rfl

/-- A record is refused if one of its fields is, or if it has none. -/
theorem recordOf_eq_refusal_iff {name : String} {repetition : Repetition} {fields : List Node} :
    recordOf policies (.group name repetition none fields) =
        .error (.unsupportedSource storage annotation path) ↔
      fields = [] ∧ emptyGroup name = .unsupportedSource storage annotation path ∨
        fieldsOf policies fields = .error (.unsupportedSource storage annotation path) := by
  cases fields with
  | nil => simp [recordOf, fieldsOf]
  | cons node nodes =>
    rw [recordOf, if_neg (by simp)]
    show _ >>= Record.ofFields = _ ↔ _
    rw [bind_eq_error_iff]
    have hfields : ¬∃ fs, fieldsOf policies (node :: nodes) = .ok fs ∧
        Record.ofFields fs = .error (.unsupportedSource storage annotation path) := by
      rintro ⟨fs, -, h⟩
      cases isUnsupportedSource_of_ofFields h
    simp [hfields]

/-- A group without annotation is read as a root is. -/
theorem typeOf_eq_map_recordOf (name : String) (repetition : Repetition) (fields : List Node) :
    typeOf policies (.group name repetition none fields) =
      (recordOf policies (.group name repetition none fields)).map Record.toType := by
  rw [typeOf, recordOf]
  cases fields with
  | nil => rfl
  | cons node nodes =>
    rw [if_neg (by simp), if_neg (by simp)]
    cases fieldsOf policies (node :: nodes) <;> rfl

theorem typeOf_map_eq {a : Refinement} (ha : a = .map ∨ a = .mapKeyValue) (name : String)
    (repetition : Repetition) (fields : List Node) :
    typeOf policies (.group name repetition (some a) fields) = entriesOf policies a.label fields := by
  rcases ha with rfl | rfl <;> rw [typeOf] <;> rfl

/-- The key and the value of a map are read as two fields are, the key first. -/
theorem entriesOf_eq_error_iff (label entries : String) (refinement : Option Refinement) (key value : Node)
    {e : SchemaError} :
    entriesOf policies label [.group entries .repeated refinement [key, value]] = .error e ↔
      fieldsOf policies [key, value] = .error e := by
  rw [entriesOf, fieldsOf, fieldsOf, fieldsOf]
  cases held key (typeOf policies key) <;> cases held value (typeOf policies value) <;>
    simp [bind, Except.bind, pure, Except.pure]

/-- An error that a node has passes up a step, with the names that are counted. -/
theorem Step.typeOf_eq_refusal {node child : Node} {counted : List String} {passed : List Node}
    (hstep : Step node counted passed child) (hpassed : Readable policies passed)
    (h : typeOf policies child = .error (.unsupportedSource storage annotation path)) :
    typeOf policies node =
      .error (.unsupportedSource storage annotation (counted.foldr joinPath path)) := by
  have hheld : held child (typeOf policies child) =
      .error (.unsupportedSource storage annotation (joinPath child.name path)) :=
    held_eq_refusal_iff.2 ⟨path, h, rfl⟩
  cases hstep with
  | field record repetition _ _ after =>
    rw [typeOf_eq_map_recordOf, map_eq_error_iff, recordOf_eq_refusal_iff]
    exact .inr (fieldsOf_eq_error_iff.2 ⟨passed, child, after, rfl, hpassed, hheld⟩)
  | repeated list repetition _ hrepetition hel =>
    rw [typeOf, map_eq_error_iff, elementOf, if_pos hrepetition, if_pos hel]
    exact h
  | element list repetition inner _ hel =>
    have hrepetition : (Node.group inner .repeated none [child]).repetition = .repeated := rfl
    rw [typeOf, map_eq_error_iff, elementOf, if_pos hrepetition, hel]
    exact hheld
  | key map repetition a entries refinement _ value ha =>
    rw [typeOf_map_eq ha, entriesOf_eq_error_iff, fieldsOf_cons_eq_error_iff]
    exact .inl hheld
  | value map repetition a entries refinement key _ ha =>
    rw [typeOf_map_eq ha, entriesOf_eq_error_iff]
    exact fieldsOf_eq_error_iff.2 ⟨[key], child, [], rfl, hpassed, hheld⟩

/-- The refusal of a node comes up a step from a node that is refused, and the nodes passed have types. -/
def ComesUp (policies : SourcePolicies) (storage annotation path : String) (node : Node) : Prop :=
  ∃ counted passed child path', Step node counted passed child ∧ Readable policies passed ∧
    typeOf policies child = .error (.unsupportedSource storage annotation path') ∧
      path = counted.foldr joinPath path'

theorem comesUp_of_fieldsOf {name : String} {repetition : Repetition} {fields : List Node}
    (h : fieldsOf policies fields = .error (.unsupportedSource storage annotation path)) :
    ComesUp policies storage annotation path (.group name repetition none fields) := by
  obtain ⟨before, child, after, rfl, hbefore, hheld⟩ := fieldsOf_eq_error_iff.1 h
  obtain ⟨path', hchild, rfl⟩ := held_eq_refusal_iff.1 hheld
  exact ⟨_, _, _, path', .field name repetition before child after, hbefore, hchild, rfl⟩

theorem of_onlyFieldOf_eq_refusal {node : Node}
    (h : onlyFieldOf policies node = .error (.unsupportedSource storage annotation path)) :
    path = "" ∨ ∃ inner repetition refinement child path',
      node = .group inner repetition refinement [child] ∧
        typeOf policies child = .error (.unsupportedSource storage annotation path') ∧
        path = joinPath child.name path' := by
  unfold onlyFieldOf at h
  split at h
  · obtain ⟨path', hchild, rfl⟩ := held_eq_refusal_iff.1 h
    exact .inr ⟨_, _, _, _, path', rfl, hchild, rfl⟩
  · cases h
    exact .inl rfl

theorem comesUp_of_elementOf {list : String} {repetition : Repetition} {fields : List Node}
    (h : elementOf policies list fields = .error (.unsupportedSource storage annotation path)) :
    path = "" ∨ ComesUp policies storage annotation path (.group list repetition (some .list) fields) := by
  unfold elementOf at h
  split at h
  · rename_i node
    by_cases hrepetition : node.repetition = .repeated
    · rw [if_pos hrepetition] at h
      cases hel : isElement list node with
      | true =>
        rw [hel, if_pos rfl] at h
        exact .inr ⟨_, _, _, path, .repeated list repetition node hrepetition hel, List.forall_mem_nil _, h,
          rfl⟩
      | false =>
        rw [hel] at h
        rcases of_onlyFieldOf_eq_refusal h with hempty | ⟨inner, r, a, child, path', rfl, hchild, rfl⟩
        · exact .inl hempty
        · -- A group with an annotation would be the element itself.
          obtain rfl : r = .repeated := hrepetition
          obtain ⟨rfl, -⟩ := isElementGroup_eq_true hel
          exact .inr ⟨_, _, _, path', .element list repetition inner child hel, List.forall_mem_nil _,
            hchild, rfl⟩
    · rw [if_neg hrepetition] at h
      cases h
      exact .inl rfl
  · cases h
    exact .inl rfl

theorem comesUp_of_entriesOf {name label : String} {repetition : Repetition} {a : Refinement}
    {fields : List Node} (ha : a = .map ∨ a = .mapKeyValue)
    (h : entriesOf policies label fields = .error (.unsupportedSource storage annotation path)) :
    path = "" ∨ ComesUp policies storage annotation path (.group name repetition (some a) fields) := by
  unfold entriesOf at h
  split at h
  · rename_i entries refinement key value
    replace h := (entriesOf_eq_error_iff label entries refinement key value).1 h
    rw [fieldsOf_cons_eq_error_iff, fieldsOf_cons_eq_error_iff] at h
    rcases h with hheld | ⟨hkey, hheld | ⟨-, h⟩⟩
    · obtain ⟨path', hchild, rfl⟩ := held_eq_refusal_iff.1 hheld
      exact .inr ⟨_, _, _, path', .key name repetition a entries refinement key value ha,
        List.forall_mem_nil _, hchild, rfl⟩
    · obtain ⟨path', hchild, rfl⟩ := held_eq_refusal_iff.1 hheld
      exact .inr ⟨_, _, _, path', .value name repetition a entries refinement key value ha,
        List.forall_mem_singleton.2 hkey, hchild, rfl⟩
    · cases h
  · cases h
    exact .inl rfl

/-- A refusal starts at the node, or comes up a step. -/
theorem comesUp_of_typeOf {node : Node}
    (h : typeOf policies node = .error (.unsupportedSource storage annotation path)) :
    path = "" ∨ ComesUp policies storage annotation path node := by
  cases node with
  | primitive name repetition physical refinement =>
    rw [typeOf] at h
    have hrefusal := (refusesAs_primitiveType physical refinement).eq_refusal _ h rfl
    cases hrefusal
    exact .inl rfl
  | group name repetition refinement fields =>
    cases refinement with
    | none =>
      rw [typeOf_eq_map_recordOf, map_eq_error_iff, recordOf_eq_refusal_iff] at h
      rcases h with ⟨-, h⟩ | h
      · cases h
        exact .inl rfl
      · exact .inr (comesUp_of_fieldsOf h)
    | some a =>
      cases a with
      | list =>
        rw [typeOf, map_eq_error_iff] at h
        exact comesUp_of_elementOf h
      | map =>
        rw [typeOf_map_eq (.inl rfl)] at h
        exact comesUp_of_entriesOf (.inl rfl) h
      | mapKeyValue =>
        rw [typeOf_map_eq (.inr rfl)] at h
        exact comesUp_of_entriesOf (.inr rfl) h
      | _ =>
        cases h
        exact .inl rfl

/-! ## The way of an error -/

/-- A sequence of steps down from a node, with the names that they count and the nodes that they pass. -/
inductive Way : Node → (names : List String) → (passed : List Node) → Node → Prop
  | here (node : Node) : Way node [] [] node
  | down {node child target : Node} {counted names : List String} {passed passed' : List Node}
      (step : Step node counted passed child) (way : Way child names passed' target) :
      Way node (counted ++ names) (passed ++ passed') target

/-- An error at the end of a way comes all the way up. -/
theorem Way.typeOf_eq_refusal {node target : Node} {names : List String} {passed : List Node}
    (hway : Way node names passed target) (hpassed : Readable policies passed)
    (h : typeOf policies target = .error (.unsupportedSource storage annotation "")) :
    typeOf policies node = .error (.unsupportedSource storage annotation (dottedPath names)) := by
  induction hway with
  | here node => exact h
  | down step way ih =>
    obtain ⟨hpassed, hpassed'⟩ := List.forall_mem_append.1 hpassed
    rw [dottedPath_append]
    exact step.typeOf_eq_refusal hpassed (ih hpassed' h)

theorem exists_way_of_typeOf {node : Node}
    (h : typeOf policies node = .error (.unsupportedSource storage annotation path)) :
    ∃ names passed target, Way node names passed target ∧ Readable policies passed ∧
      typeOf policies target = .error (.unsupportedSource storage annotation "") ∧
        path = dottedPath names := by
  induction node using Node.stepInduction generalizing path with
  | step node ih =>
    rcases comesUp_of_typeOf h with rfl | ⟨counted, passed, child, path', hstep, hpassed, hchild, rfl⟩
    · exact ⟨[], [], node, .here node, List.forall_mem_nil _, h, rfl⟩
    · obtain ⟨names, passed', target, hway, hpassed', htarget, rfl⟩ := ih counted passed child hstep hchild
      exact ⟨counted ++ names, passed ++ passed', target, .down hstep hway,
        List.forall_mem_append.2 ⟨hpassed, hpassed'⟩, htarget, (dottedPath_append counted names).symm⟩

/-- **A node is refused with a path exactly if a way with its names leads to a node that is refused with an
empty one**, and what is read before that has types. -/
theorem typeOf_eq_refusal_iff {node : Node} :
    typeOf policies node = .error (.unsupportedSource storage annotation path) ↔
      ∃ names passed target, Way node names passed target ∧ Readable policies passed ∧
        typeOf policies target = .error (.unsupportedSource storage annotation "") ∧
          path = dottedPath names := by
  refine ⟨exists_way_of_typeOf, ?_⟩
  rintro ⟨names, passed, target, hway, hpassed, htarget, rfl⟩
  exact hway.typeOf_eq_refusal hpassed htarget

/-! ## Names on the way -/

/-- The node of a step, and all it holds, are in its group. -/
theorem Step.places_subset {node child : Node} {counted : List String} {passed : List Node}
    (h : Step node counted passed child) :
    ∃ holder, child.places (some holder) ⊆ placesIn node node.children := by
  rcases h.mem_children with hmem | ⟨c, hc, hmem⟩
  · exact ⟨node, places_subset_placesIn hmem⟩
  · have hbelow : placesIn c c.children ⊆ c.places (some node) := by
      rw [places_eq_cons]
      exact List.subset_cons_self ..
    exact ⟨c, List.Subset.trans (places_subset_placesIn hmem)
      (List.Subset.trans hbelow (places_subset_placesIn hc))⟩

theorem Step.counted_subset {node child : Node} {counted : List String} {passed : List Node}
    (h : Step node counted passed child) : counted ⊆ [child.name] := by
  cases h with
  | repeated => exact List.nil_subset _
  | _ => exact List.Subset.refl _

/-- Every node in the node has a name. -/
def NamedWithin (node : Node) : Prop :=
  ∀ place ∈ placesIn node node.children, place.node.name ≠ ""

theorem Step.named {node child : Node} {counted : List String} {passed : List Node}
    (hstep : Step node counted passed child) (h : NamedWithin node) : "" ∉ counted ∧ NamedWithin child := by
  obtain ⟨holder, hsub⟩ := hstep.places_subset
  rw [places_eq_cons, List.cons_subset] at hsub
  obtain ⟨hchild, hbelow⟩ := hsub
  refine ⟨fun hempty => h _ hchild ?_, fun place hplace => h place (hbelow hplace)⟩
  exact (List.mem_singleton.1 (hstep.counted_subset hempty)).symm

theorem Way.named {node target : Node} {names : List String} {passed : List Node}
    (hway : Way node names passed target) (h : NamedWithin node) : "" ∉ names := by
  induction hway with
  | here => exact List.not_mem_nil
  | down step way ih =>
    obtain ⟨hcounted, hchild⟩ := step.named h
    rw [List.mem_append, not_or]
    exact ⟨hcounted, ih hchild⟩

/-! ## Roots -/

/-- **An error about a source type blames the first node that has none.** The path of an error about a root
group is made of the names on a way down to a node that is refused as a whole for the same reason, and every
field and every key that is read before has a type. Only a root without fields is refused itself. -/
theorem recordOf_blames_first_offender (policies : SourcePolicies) {root : String} {repetition : Repetition}
    {fields : List Node} {storage annotation path : String}
    (hnames : ∀ place ∈ placesIn (.group root repetition none fields) fields, place.node.name ≠ "")
    (h : recordOf policies (.group root repetition none fields) =
      .error (.unsupportedSource storage annotation path)) :
    (fields = [] ∧ path = "") ∨
      ∃ names passed target, names ≠ [] ∧ Way (.group root repetition none fields) names passed target ∧
        path = ".".intercalate names ∧
        typeOf policies target = .error (.unsupportedSource storage annotation "") ∧
        ∀ n ∈ passed, ∃ t, typeOf policies n = .ok t := by
  rcases recordOf_eq_refusal_iff.1 h with ⟨rfl, hempty⟩ | hfields
  · cases hempty
    exact .inl ⟨rfl, rfl⟩
  · obtain ⟨before, child, after, rfl, hbefore, hheld⟩ := fieldsOf_eq_error_iff.1 hfields
    obtain ⟨path', hchild, rfl⟩ := held_eq_refusal_iff.1 hheld
    obtain ⟨names, passed, target, hway, hpassed, htarget, rfl⟩ := exists_way_of_typeOf hchild
    have hroot : Way (.group root repetition none (before ++ child :: after)) (child.name :: names)
        (before ++ passed) target := .down (.field root repetition before child after) hway
    exact .inr ⟨child.name :: names, before ++ passed, target, List.cons_ne_nil _ _, hroot,
      dottedPath_eq_intercalate (hroot.named hnames), htarget,
      List.forall_mem_append.2 ⟨hbefore, hpassed⟩⟩

/-- A list of two levels in a map in a list of three, with a span of time and a group without fields in it. -/
def stockTree : Node :=
  .group "stock" .required none [
    .primitive "id" .required .int64 none,
    .group "shelves" .optional (some .list) [
      .group "list" .repeated none [
        .group "shelf" .optional (some .map) [
          .group "key_value" .repeated none [
            .primitive "key" .required .byteArray (some .utf8),
            .group "value" .optional (some .list) [
              .group "array" .repeated none [
                .primitive "sku" .required .byteArray (some .utf8),
                .primitive "age" .optional (.fixedLenByteArray 12) (some .interval)]]]]]],
    .group "owner" .required none []]

theorem recordOf_blames_age_of_stockTree :
    (∀ place ∈ placesIn stockTree stockTree.children, place.node.name ≠ "") ∧
      recordOf {} stockTree =
        .error (.unsupportedSource "FIXED_LEN_BYTE_ARRAY(12)" "INTERVAL" "shelves.shelf.value.age") ∧
      ∃ names passed target, names ≠ [] ∧ Way stockTree names passed target ∧
        "shelves.shelf.value.age" = ".".intercalate names ∧
        typeOf {} target = .error (.unsupportedSource "FIXED_LEN_BYTE_ARRAY(12)" "INTERVAL" "") ∧
        ∀ n ∈ passed, ∃ t, typeOf {} n = .ok t := by
  have hnames : ∀ place ∈ placesIn stockTree stockTree.children, place.node.name ≠ "" := by decide +kernel
  have h : recordOf {} stockTree =
      .error (.unsupportedSource "FIXED_LEN_BYTE_ARRAY(12)" "INTERVAL" "shelves.shelf.value.age") := by
    decide +kernel
  refine ⟨hnames, h, ?_⟩
  rcases recordOf_blames_first_offender {} hnames h with ⟨hempty, -⟩ | hway
  · cases hempty
  · exact hway

end SchemaBridge.Source
