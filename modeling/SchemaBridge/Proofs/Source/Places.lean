import SchemaBridge.Proofs.Source.Import

/-!
# Places in a source tree

`Node.places` walks a tree in document order and keeps with each node the group that holds it, since what
a group is read as depends on both. The repeated group around the element of a list and the entry group
of a map are scaffolding (`Place.isScaffold`); every other group without annotation is a record
(`Place.isRecord`).
-/

namespace SchemaBridge.Source

/-- A node of a tree, and the group that holds it. The root is held by none. -/
structure Place where
  holder : Option Node
  node : Node
deriving Repr

mutual

/-- The places of a tree in document order, a group before its nodes. -/
def Node.places (holder : Option Node) : Node → List Place
  | .primitive name repetition physical refinement =>
    [⟨holder, .primitive name repetition physical refinement⟩]
  | .group name repetition refinement fields =>
    ⟨holder, .group name repetition refinement fields⟩ ::
      placesIn (.group name repetition refinement fields) fields

/-- The places of the nodes of a group. -/
def placesIn (holder : Node) : List Node → List Place
  | [] => []
  | node :: nodes => node.places (some holder) ++ placesIn holder nodes

end

/-- A node comes before what it holds. -/
theorem places_eq_cons (holder : Option Node) (node : Node) :
    node.places holder = ⟨holder, node⟩ :: placesIn node node.children := by
  cases node <;> rfl

theorem placesIn_singleton (holder node : Node) : placesIn holder [node] = node.places (some holder) := by
  rw [placesIn, placesIn, List.append_nil]

theorem placesIn_pair (holder a b : Node) :
    placesIn holder [a, b] = a.places (some holder) ++ b.places (some holder) := by
  rw [placesIn, placesIn_singleton]

theorem mem_placesIn_iff {holder : Node} {nodes : List Node} {place : Place} :
    place ∈ placesIn holder nodes ↔ ∃ node ∈ nodes, place ∈ node.places (some holder) := by
  induction nodes with
  | nil => simp [placesIn]
  | cons node nodes ih => simp [placesIn, ih]

theorem places_subset_placesIn {holder node : Node} {nodes : List Node} (h : node ∈ nodes) :
    node.places (some holder) ⊆ placesIn holder nodes :=
  fun _ hp => mem_placesIn_iff.2 ⟨node, h, hp⟩

/-! ## Scaffolding -/

/-- The repeated group around the element of the list named `list`. Older layouts mark the element itself
by its size or by one of two names. -/
def isElementGroup (list : String) : Node → Bool
  | .group name .repeated none [_] => name != "array" && name != list ++ "_tuple"
  | _ => false

/-- The repeated group around the key and the value of a map. -/
def isEntryGroup : Node → Bool
  | .group _ .repeated _ [_, _] => true
  | _ => false

namespace Place

/-- The entry group of a map. -/
def isEntries : Place → Bool
  | ⟨some (.group _ _ (some .map) [_]), node⟩ => isEntryGroup node
  | ⟨some (.group _ _ (some .mapKeyValue) [_]), node⟩ => isEntryGroup node
  | _ => false

/-- A group that the layout of a list or a map asks for, and that is no type of its own. -/
def isScaffold : Place → Bool
  | ⟨some (.group list _ (some .list) [_]), node⟩ => isElementGroup list node
  | place => place.isEntries

/-- A group without annotation that is no scaffolding. -/
def isRecord (place : Place) : Bool :=
  place.node.isGroup && place.node.refinement.isNone && !place.isScaffold

end Place

theorem isScaffold_of_plain_holder {name : String} {repetition : Repetition} {fields : List Node}
    (node : Node) : (Place.mk (some (.group name repetition none fields)) node).isScaffold = false := rfl

/-- The entry group of a map holds two nodes, so these are no scaffolding, whatever its annotation is. -/
theorem isScaffold_of_pair_holder {name : String} {repetition : Repetition}
    {refinement : Option Refinement} {a b : Node} (node : Node) :
    (Place.mk (some (.group name repetition refinement [a, b])) node).isScaffold = false := by
  unfold Place.isScaffold Place.isEntries
  simp

theorem isElementGroup_eq_false {list : String} {node : Node} (h : isElement list node = true) :
    isElementGroup list node = false := by
  unfold isElementGroup
  split
  · rename_i name d
    simp only [isElement, List.length_singleton, Nat.lt_irrefl, decide_false, Bool.false_or,
      Bool.or_eq_true] at h
    rcases h with h | h <;> simp [bne, h]
  · rfl

theorem isElementGroup_eq_true {list name : String} {refinement : Option Refinement} {d : Node}
    (h : isElement list (.group name .repeated refinement [d]) = false) :
    refinement = none ∧ isElementGroup list (.group name .repeated refinement [d]) = true := by
  cases refinement with
  | some a => simp [isElement] at h
  | none =>
    simp only [isElement, List.length_singleton, Nat.lt_irrefl, decide_false, Bool.false_or,
      Bool.or_eq_false_iff] at h
    refine ⟨rfl, ?_⟩
    simp [isElementGroup, bne, h.1, h.2]

/-- The node of a list is the element, or scaffolding around it. -/
theorem elementOf_cases {policies : SourcePolicies} {list : String} {nodes : List Node} {e : DataType}
    (h : elementOf policies list nodes = .ok e) :
    (∃ c, nodes = [c] ∧ isElementGroup list c = false ∧ typeOf policies c = .ok e) ∨
      ∃ name d, nodes = [.group name .repeated none [d]] ∧
        isElementGroup list (.group name .repeated none [d]) = true ∧
        ∃ t, typeOf policies d = .ok t ∧ e = occurring d.repetition t := by
  obtain ⟨c, rfl, hrep, he⟩ := elementOf_eq_ok_iff.1 h
  cases hel : isElement list c with
  | true =>
    rw [hel, if_pos rfl] at he
    exact .inl ⟨c, rfl, isElementGroup_eq_false hel, he⟩
  | false =>
    rw [hel] at he
    obtain ⟨name, r, a, d, rfl, t, ht, rfl⟩ := onlyFieldOf_eq_ok_iff.1 he
    obtain rfl : r = .repeated := hrep
    obtain ⟨rfl, hgroup⟩ := isElementGroup_eq_true hel
    exact .inr ⟨name, d, rfl, hgroup, t, ht, rfl⟩

end SchemaBridge.Source
