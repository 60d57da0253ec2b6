import SchemaBridge.Proofs.Source.Places

/-!
# What an imported type is made of

An imported type has the columns and the records of its source tree, and nothing else. `Accounts` relates
places of a tree to types met on a walk: the columns are read as the primitive types, and the records as
the record types, one for one and in order. The walk of an imported type accounts for the places of its
node (`accounted`): lists and maps add no column and no record and drop none, and their scaffolding is
neither.

Main statement: `accounts_walk_of_typeOf`.
-/

namespace SchemaBridge.Source

/-- The columns among the places. -/
def leavesOf (places : List Place) : List Node := (places.map Place.node).filter (!·.isGroup)

/-- The groups among the places that are records. -/
def recordsOf (places : List Place) : List Node := (places.filter Place.isRecord).map Place.node

/-- The field stands for the node: it has its name, may be missing if the node is optional, and has its
type, as an array if the node is repeated. -/
structure Describes (policies : SourcePolicies) (node : Node) (field : Field) : Prop where
  name : field.name = node.name
  nullable : field.nullable = true ↔ node.repetition = .optional
  type : ∃ t, typeOf policies node = .ok t ∧
    field.type = if node.repetition = .repeated then .array t else t

/-- The primitive types and the record types are those of the columns and the records, in order. -/
structure Accounts (policies : SourcePolicies) (places : List Place) (types : List DataType) : Prop where
  leaves : (leavesOf places).Forall₂ (typeOf policies · = .ok ·) (types.filter DataType.isPrimitive)
  records : (recordsOf places).Forall₂
    (fun group fields => group.children.Forall₂ (Describes policies) fields)
    (types.filterMap DataType.fields?)

variable {policies : SourcePolicies}

/-! ## Places and types one by one -/

namespace Accounts

variable {places places' : List Place} {types types' : List DataType}

theorem nil : Accounts policies [] [] := ⟨.nil, .nil⟩

theorem append (h : Accounts policies places types) (h' : Accounts policies places' types') :
    Accounts policies (places ++ places') (types ++ types') := by
  constructor
  · unfold leavesOf
    rw [List.map_append, List.filter_append, List.filter_append]
    exact List.rel_append h.leaves h'.leaves
  · unfold recordsOf
    rw [List.filter_append, List.map_append, List.filterMap_append]
    exact List.rel_append h.records h'.records

/-- A column is one primitive type. -/
theorem leaf {holder : Option Node} {node : Node} {t : DataType} (hn : node.isGroup = false)
    (ht : t.isPrimitive = true) (h : typeOf policies node = .ok t) :
    Accounts policies [⟨holder, node⟩] [t] := by
  have hf : t.fields? = none := by cases t <;> first | rfl | cases ht
  constructor
  · simpa [leavesOf, hn, ht] using h
  · simp [recordsOf, Place.isRecord, hn, hf]

/-- A group that is no record is no type. -/
theorem skip {place : Place} (h : Accounts policies places types) (hg : place.node.isGroup = true)
    (hr : place.isRecord = false) : Accounts policies (place :: places) types := by
  constructor
  · simpa [leavesOf, hg] using h.leaves
  · simpa [recordsOf, hr] using h.records

/-- An array or a map is no column and no record. -/
theorem wrap {t : DataType} (h : Accounts policies places types) (ht : t.isPrimitive = false)
    (hf : t.fields? = none) : Accounts policies places (t :: types) := by
  constructor
  · simpa [ht] using h.leaves
  · simpa [hf] using h.records

/-- A record is one record type. -/
theorem record {place : Place} {fields : List Field} (h : Accounts policies places types)
    (hr : place.isRecord = true) (hf : place.node.children.Forall₂ (Describes policies) fields) :
    Accounts policies (place :: places) (.record fields :: types) := by
  have hg : place.node.isGroup = true := by
    simp only [Place.isRecord, Bool.and_eq_true] at hr
    exact hr.1.1
  constructor
  · simpa [leavesOf, hg, DataType.isPrimitive] using h.leaves
  · unfold recordsOf
    rw [List.filter_cons_of_pos hr]
    exact .cons hf h.records

/-- A repeated node adds an array. -/
theorem occurring {t : DataType} (r : Repetition) (h : Accounts policies places t.walk) :
    Accounts policies places (occurring r t).walk := by
  unfold Source.occurring
  split
  · exact h.wrap rfl rfl
  · exact h

end Accounts

/-! ## Nodes -/

/-- The fields of a record describe the nodes of its group, in their order. -/
theorem describes_of_fieldsOf {nodes : List Node} {fields : List Field}
    (h : fieldsOf policies nodes = .ok fields) : nodes.Forall₂ (Describes policies) fields := by
  induction nodes generalizing fields with
  | nil =>
    cases h
    exact .nil
  | cons node nodes ih =>
    obtain ⟨t, ht, fs, hfs, rfl⟩ := fieldsOf_cons_eq_ok_iff.1 h
    have head : Describes policies node (fieldOf node (occurring node.repetition t)) :=
      { name := rfl
        nullable := decide_eq_true_iff
        type := ⟨t, ht, rfl⟩ }
    exact .cons head (ih hfs)

/-- Wherever the node stands and is no scaffolding, the walk of its type accounts for its places. -/
def Accounted (policies : SourcePolicies) (node : Node) : Prop :=
  ∀ t, typeOf policies node = .ok t → ∀ holder, (Place.mk holder node).isScaffold = false →
    Accounts policies (node.places holder) t.walk

theorem accounts_fieldsOf {holder : Node} {nodes : List Node} {fields : List Field}
    (hs : ∀ c ∈ nodes, (Place.mk (some holder) c).isScaffold = false)
    (ih : ∀ c ∈ nodes, Accounted policies c) (h : fieldsOf policies nodes = .ok fields) :
    Accounts policies (placesIn holder nodes) (DataType.walkFields fields) := by
  induction nodes generalizing fields with
  | nil =>
    cases h
    exact .nil
  | cons node nodes ihn =>
    obtain ⟨t, ht, fs, hfs, rfl⟩ := fieldsOf_cons_eq_ok_iff.1 h
    obtain ⟨hs₁, hs₂⟩ := List.forall_mem_cons.1 hs
    obtain ⟨ih₁, ih₂⟩ := List.forall_mem_cons.1 ih
    have head := ih₁ t ht (some holder) hs₁
    exact (head.occurring node.repetition).append (ihn hs₂ ih₂ hfs)

/-- A list has the columns and the records of its element. A group around the element is neither. -/
theorem accounts_elementOf {list : String} {repetition : Repetition} {nodes : List Node} {e : DataType}
    (ih : ∀ c ∈ nodes, Accounted policies c ∧ ∀ d ∈ c.children, Accounted policies d)
    (h : elementOf policies list nodes = .ok e) :
    Accounts policies (placesIn (.group list repetition (some .list) nodes) nodes) e.walk := by
  rcases elementOf_cases h with ⟨c, rfl, hgroup, hc⟩ | ⟨name, d, rfl, hgroup, t, ht, rfl⟩
  · obtain ⟨hall, -⟩ := ih c (List.mem_cons_self ..)
    rw [placesIn_singleton]
    exact hall e hc _ hgroup
  · -- The group around the element has no annotation, so it is read past; its node is read in its place.
    obtain ⟨-, hall⟩ := ih _ (List.mem_cons_self ..)
    have hd := hall d (List.mem_cons_self ..) t ht (some (.group name .repeated none [d]))
      (isScaffold_of_plain_holder d)
    rw [placesIn_singleton, places_eq_cons, Node.children, placesIn_singleton]
    refine (hd.occurring d.repetition).skip rfl ?_
    simp [Place.isRecord, Place.isScaffold, hgroup]

/-- A map has the columns and the records of its key and its value. The group around them is neither,
whatever its annotation is. -/
theorem accounts_entriesOf {name label : String} {repetition : Repetition} {a : Refinement}
    {nodes : List Node} {t : DataType} (ha : a = .map ∨ a = .mapKeyValue)
    (ih : ∀ c ∈ nodes, Accounted policies c ∧ ∀ d ∈ c.children, Accounted policies d)
    (h : entriesOf policies label nodes = .ok t) :
    Accounts policies (placesIn (.group name repetition (some a) nodes) nodes) t.walk := by
  obtain ⟨en, er, key, value, rfl, k, hk, v, hv, rfl⟩ := entriesOf_eq_ok_iff.1 h
  obtain ⟨-, hd⟩ := ih _ (List.mem_cons_self ..)
  -- The entry group may be annotated as a list, but a list holds one node only.
  have hkey := hd key (by simp [Node.children]) k hk (some (.group en .repeated er [key, value]))
    (isScaffold_of_pair_holder key)
  have hvalue := hd value (by simp [Node.children]) v hv (some (.group en .repeated er [key, value]))
    (isScaffold_of_pair_holder value)
  have hpair := (hkey.occurring key.repetition).append (hvalue.occurring value.repetition)
  rw [placesIn_singleton, places_eq_cons, Node.children, placesIn_pair]
  refine (hpair.skip rfl ?_).wrap rfl rfl
  rcases ha with rfl | rfl <;> simp [Place.isRecord, Place.isScaffold, Place.isEntries, isEntryGroup]

/-- **The walk of an imported type accounts for the places of its node**, wherever the node stands, if it
is no scaffolding there. -/
theorem accounted (policies : SourcePolicies) (node : Node) : Accounted policies node := by
  induction node using Node.induction with
  | primitive name repetition physical refinement =>
    intro t h holder hs
    have ht := (primitiveType_eq_ok_iff.1 h).isPrimitive
    rw [DataType.walk_of_isPrimitive ht]
    exact .leaf rfl ht h
  | group name repetition refinement fields ih =>
    intro t h holder hs
    rw [places_eq_cons]
    cases refinement with
    | none =>
      obtain ⟨fs, hfs, ht⟩ := typeOf_record_eq_ok_iff.1 h
      obtain ⟨rfl, -⟩ := DataType.mkRecord_eq_ok_iff.1 ht
      have hall : Accounts policies (placesIn (.group name repetition none fields) fields)
          (DataType.walkFields fs) :=
        accounts_fieldsOf (fun c _ => isScaffold_of_plain_holder c) (fun c hc => (ih c hc).1) hfs
      refine hall.record ?_ (describes_of_fieldsOf hfs)
      simp [Place.isRecord, Node.isGroup, Node.refinement, hs]
    | some a =>
      cases a with
      | list =>
        obtain ⟨e, he, rfl⟩ := typeOf_list_eq_ok_iff.1 h
        exact ((accounts_elementOf ih he).wrap rfl rfl).skip rfl rfl
      | map => exact (accounts_entriesOf (.inl rfl) ih h).skip rfl rfl
      | mapKeyValue => exact (accounts_entriesOf (.inr rfl) ih h).skip rfl rfl
      | _ => cases h

/-- **An imported type has the columns and the records of its tree**, each of them once and in document
order: its primitive types are those of the columns, and its record types have one field per node of
their group, named as the node, and nullable where the node is optional. -/
theorem accounts_walk_of_typeOf {root : Node} {t : DataType} (h : typeOf policies root = .ok t) :
    (leavesOf (root.places none)).Forall₂ (typeOf policies · = .ok ·)
        (t.walk.filter DataType.isPrimitive) ∧
      (recordsOf (root.places none)).Forall₂
        (fun group fields => group.children.Forall₂ (Describes policies) fields)
        (t.walk.filterMap DataType.fields?) := by
  have hall := accounted policies root t h none rfl
  exact ⟨hall.leaves, hall.records⟩

/-- A list of each layout, a map whose entry group is annotated as a list, and a bare repeated column. -/
def orderTree : Node :=
  .group "order" .required none [
    .primitive "id" .required .int64 none,
    .group "tags" .optional (some .list) [
      .group "list" .repeated none [.primitive "tag" .optional .byteArray (some .utf8)]],
    .group "points" .required (some .list) [
      .group "points_tuple" .repeated none [.primitive "x" .repeated .double none]],
    .group "notes" .optional (some .map) [
      .group "entries" .repeated (some .list) [
        .primitive "key" .required .int32 (some .date),
        .group "value" .repeated none [.primitive "note" .optional .byteArray (some .json)]]],
    .primitive "scores" .repeated .float none]

def orderType : DataType :=
  .record [
    ⟨"id", .int64, false⟩,
    ⟨"tags", .array .string, true⟩,
    ⟨"points", .array (.record [⟨"x", .array .float64, false⟩]), false⟩,
    ⟨"notes", .map .date (.array (.record [⟨"note", .string, true⟩])), true⟩,
    ⟨"scores", .array .float32, false⟩]

theorem accounts_walk_of_orderTree :
    typeOf {} orderTree = .ok orderType ∧
      (leavesOf (orderTree.places none)).map Node.name = ["id", "tag", "x", "key", "note", "scores"] ∧
      orderType.walk.filter DataType.isPrimitive =
        [.int64, .string, .float64, .date, .string, .float32] ∧
      (recordsOf (orderTree.places none)).map Node.name = ["order", "points_tuple", "value"] ∧
      (leavesOf (orderTree.places none)).Forall₂ (typeOf {} · = .ok ·)
        (orderType.walk.filter DataType.isPrimitive) ∧
      (recordsOf (orderTree.places none)).Forall₂
        (fun group fields => group.children.Forall₂ (Describes {}) fields)
        (orderType.walk.filterMap DataType.fields?) := by
  have h : typeOf {} orderTree = .ok orderType := by decide +kernel
  exact ⟨h, by decide +kernel, by decide +kernel, by decide +kernel, accounts_walk_of_typeOf h⟩

end SchemaBridge.Source
