import SchemaBridge.Proofs.Source.Places

/-!
# Annotations that count

A type is imported from a tree only if every node of the tree can be imported on its own, scaffolding apart
(`typeOf_eq_ok_or_isScaffold`). A node that can be imported has an annotation with a meaning
(`refined_of_typeOf`), and the element group of a list has none. Entry groups of maps are the one place
where an annotation is not looked at.

Main statement: `refined_of_mem_places`.
-/

namespace SchemaBridge.Source

/-- The annotation says what the node is: a group is a record, a list or a map, and a column has a row in
the table. -/
def Node.Refined (policies : SourcePolicies) : Node → Prop
  | .primitive _ _ physical refinement => ∃ t, Maps policies physical refinement t
  | .group _ _ none _ => True
  | .group _ _ (some a) _ => a = .list ∨ a = .map ∨ a = .mapKeyValue

variable {policies : SourcePolicies}

theorem refined_of_typeOf {node : Node} {t : DataType} (h : typeOf policies node = .ok t) :
    node.Refined policies := by
  cases node with
  | primitive name repetition physical refinement => exact ⟨t, primitiveType_eq_ok_iff.1 h⟩
  | group name repetition refinement fields =>
    cases refinement with
    | none => trivial
    | some a =>
      cases a with
      | list => exact .inl rfl
      | map => exact .inr (.inl rfl)
      | mapKeyValue => exact .inr (.inr rfl)
      | _ => cases h

/-! ## Every node is imported -/

/-- The node can be imported on its own, or is scaffolding. -/
def Place.Covered (policies : SourcePolicies) (place : Place) : Prop :=
  place.isScaffold = true ∨ ∃ t, typeOf policies place.node = .ok t

/-- Where the node can be imported, all that it holds is covered. -/
def CoversNodes (policies : SourcePolicies) (node : Node) : Prop :=
  ∀ t, typeOf policies node = .ok t → ∀ place ∈ placesIn node node.children, place.Covered policies

theorem covered_of_mem_places {node : Node} {t : DataType} (hc : CoversNodes policies node)
    (h : typeOf policies node = .ok t) {holder : Option Node} {place : Place}
    (hp : place ∈ node.places holder) : place.Covered policies := by
  rw [places_eq_cons] at hp
  rcases List.mem_cons.1 hp with rfl | hp
  · exact .inr ⟨t, h⟩
  · exact hc t h place hp

theorem typeOf_eq_ok_of_fieldsOf {nodes : List Node} {fields : List Field}
    (h : fieldsOf policies nodes = .ok fields) : ∀ c ∈ nodes, ∃ t, typeOf policies c = .ok t := by
  induction nodes generalizing fields with
  | nil => simp
  | cons node nodes ih =>
    obtain ⟨t, ht, fs, hfs, -⟩ := fieldsOf_cons_eq_ok_iff.1 h
    exact List.forall_mem_cons.2 ⟨⟨t, ht⟩, ih hfs⟩

theorem covered_of_elementOf {list : String} {repetition : Repetition} {nodes : List Node}
    {e : DataType}
    (ih : ∀ c ∈ nodes, CoversNodes policies c ∧ ∀ d ∈ c.children, CoversNodes policies d)
    (h : elementOf policies list nodes = .ok e) :
    ∀ place ∈ placesIn (.group list repetition (some .list) nodes) nodes, place.Covered policies := by
  intro place hp
  rcases elementOf_cases h with ⟨c, rfl, -, hc⟩ | ⟨name, d, rfl, hgroup, t, ht, rfl⟩
  · obtain ⟨hall, -⟩ := ih c (List.mem_cons_self ..)
    rw [placesIn_singleton] at hp
    exact covered_of_mem_places hall hc hp
  · obtain ⟨-, hall⟩ := ih _ (List.mem_cons_self ..)
    rw [placesIn_singleton, places_eq_cons, Node.children, placesIn_singleton] at hp
    rcases List.mem_cons.1 hp with rfl | hp
    · exact .inl hgroup
    · exact covered_of_mem_places (hall d (List.mem_cons_self ..)) ht hp

theorem covered_of_entriesOf {name label : String} {repetition : Repetition} {a : Refinement}
    {nodes : List Node} {t : DataType} (ha : a = .map ∨ a = .mapKeyValue)
    (ih : ∀ c ∈ nodes, CoversNodes policies c ∧ ∀ d ∈ c.children, CoversNodes policies d)
    (h : entriesOf policies label nodes = .ok t) :
    ∀ place ∈ placesIn (.group name repetition (some a) nodes) nodes, place.Covered policies := by
  obtain ⟨en, er, key, value, rfl, k, hk, v, hv, rfl⟩ := entriesOf_eq_ok_iff.1 h
  obtain ⟨-, hd⟩ := ih _ (List.mem_cons_self ..)
  intro place hp
  rw [placesIn_singleton, places_eq_cons, Node.children, placesIn_pair] at hp
  rcases List.mem_cons.1 hp with rfl | hp
  · left
    rcases ha with rfl | rfl <;> rfl
  · rcases List.mem_append.1 hp with hp | hp
    · exact covered_of_mem_places (hd key (by simp [Node.children])) hk hp
    · exact covered_of_mem_places (hd value (by simp [Node.children])) hv hp

theorem coversNodes (policies : SourcePolicies) (node : Node) : CoversNodes policies node := by
  induction node using Node.induction with
  | primitive =>
    intro t h place hp
    simp [Node.children, placesIn] at hp
  | group name repetition refinement fields ih =>
    intro t h
    rw [Node.children]
    cases refinement with
    | none =>
      obtain ⟨fs, hfs, -⟩ := typeOf_record_eq_ok_iff.1 h
      intro place hp
      obtain ⟨c, hc, hp⟩ := mem_placesIn_iff.1 hp
      obtain ⟨u, hu⟩ := typeOf_eq_ok_of_fieldsOf hfs c hc
      exact covered_of_mem_places (ih c hc).1 hu hp
    | some a =>
      cases a with
      | list =>
        obtain ⟨e, he, -⟩ := typeOf_list_eq_ok_iff.1 h
        exact covered_of_elementOf ih he
      | map => exact covered_of_entriesOf (.inl rfl) ih h
      | mapKeyValue => exact covered_of_entriesOf (.inr rfl) ih h
      | _ => cases h

/-- **Every node of an imported tree can be imported on its own**, scaffolding apart. -/
theorem typeOf_eq_ok_or_isScaffold {root : Node} {t : DataType} (h : typeOf policies root = .ok t)
    {place : Place} (hp : place ∈ root.places none) :
    place.isScaffold = true ∨ ∃ u, typeOf policies place.node = .ok u :=
  covered_of_mem_places (coversNodes policies root) h hp

/-! ## Every annotation has a meaning, but for entry groups -/

/-- The element group of a list has no annotation. -/
theorem refined_of_isScaffold {place : Place} (hs : place.isScaffold = true)
    (he : place.isEntries = false) : place.node.Refined policies := by
  unfold Place.isScaffold at hs
  split at hs
  · unfold isElementGroup at hs
    split at hs
    · trivial
    · cases hs
  · rw [he] at hs
    cases hs

/-- **No annotation is passed over** in a tree that is imported, other than those of the entry groups of
maps, which make no difference. -/
theorem refined_of_mem_places (policies : SourcePolicies) :
    (∀ root t, typeOf policies root = .ok t → ∀ place ∈ root.places none, place.isEntries = false →
      place.node.Refined policies) ∧
      ∀ name repetition entries entryRepetition (a b : Option Refinement) nodes,
        ∀ m ∈ [Refinement.map, .mapKeyValue],
          typeOf policies
              (.group name repetition (some m) [.group entries entryRepetition a nodes]) =
            typeOf policies
              (.group name repetition (some m) [.group entries entryRepetition b nodes]) := by
  refine ⟨fun root t h place hp he => ?_, fun name repetition entries entryRepetition a b nodes m hm => ?_⟩
  · rcases typeOf_eq_ok_or_isScaffold h hp with hs | ⟨u, hu⟩
    · exact refined_of_isScaffold hs he
    · exact refined_of_typeOf hu
  · have hentries : ∀ label, entriesOf policies label [.group entries entryRepetition a nodes] =
        entriesOf policies label [.group entries entryRepetition b nodes] := by
      intro label
      unfold entriesOf
      split <;> simp_all
    rcases List.mem_cons.1 hm with rfl | hm
    · exact hentries "MAP"
    · obtain rfl := List.mem_singleton.1 hm
      exact hentries "MAP_KEY_VALUE"

/-- A map whose entry group has that annotation. -/
def mapWithEntries (a : Option Refinement) : Node :=
  .group "attrs" .required (some .map) [
    .group "key_value" .repeated a [
      .primitive "key" .required .byteArray (some .utf8),
      .primitive "value" .optional .int32 none]]

theorem refined_of_mem_mapWithEntries :
    typeOf {} (mapWithEntries (some .interval)) = .ok (.map .string .int32) ∧
      (∀ place ∈ (mapWithEntries (some .interval)).places none, place.isEntries = false →
        place.node.Refined {}) ∧
      typeOf {} (mapWithEntries (some .interval)) = typeOf {} (mapWithEntries none) := by
  have h : typeOf {} (mapWithEntries (some .interval)) = .ok (.map .string .int32) := by
    decide +kernel
  obtain ⟨hrefined, hentries⟩ := refined_of_mem_places {}
  exact ⟨h, hrefined _ _ h, hentries _ _ _ _ _ _ _ .map (List.mem_cons_self ..)⟩

/-- An interval is no annotation of a group, but a tree with one on an entry group is imported. -/
theorem not_refined_of_mapWithEntries :
    typeOf {} (mapWithEntries (some .interval)) = .ok (.map .string .int32) ∧
      ∃ place ∈ (mapWithEntries (some .interval)).places none, place.node.isGroup = true ∧
        place.node.refinement = some .interval ∧ ¬place.node.Refined {} := by
  have hmem : (Place.mk (some (mapWithEntries (some .interval)))
      (.group "key_value" .repeated (some .interval) [
        .primitive "key" .required .byteArray (some .utf8),
        .primitive "value" .optional .int32 none])) ∈
      (mapWithEntries (some .interval)).places none :=
    List.mem_cons_of_mem _ (List.mem_cons_self ..)
  refine ⟨by decide +kernel, _, hmem, rfl, rfl, ?_⟩
  simp [Node.Refined]

end SchemaBridge.Source
