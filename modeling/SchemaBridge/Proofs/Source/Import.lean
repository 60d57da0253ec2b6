import SchemaBridge.Proofs.Source.Primitive
import SchemaBridge.Source.Import

/-!
# Imported types

One equivalence for each function of the importer says when it succeeds and with what. Main statements:
`wellFormed_typeOf` and `wellFormed_recordOf`, what is imported from any tree under any policies is well
formed at every level.
-/

namespace SchemaBridge.Source

variable {policies : SourcePolicies}

/-! ## Nodes -/

theorem held_eq_ok_iff {node : Node} {r : Except SchemaError DataType} {t : DataType} :
    held node r = .ok t ↔ ∃ u, r = .ok u ∧ t = occurring node.repetition u := by
  rw [held, within_eq_ok_iff, map_eq_ok_iff]

theorem wellFormed_occurring {repetition : Repetition} {t : DataType} (h : t.WellFormed) :
    (occurring repetition t).WellFormed := by
  unfold occurring
  split <;> exact h

/-- A group without annotation is a record. -/
theorem typeOf_record_eq_ok_iff {name : String} {repetition : Repetition} {fields : List Node}
    {t : DataType} :
    typeOf policies (.group name repetition none fields) = .ok t ↔
      ∃ fs, fieldsOf policies fields = .ok fs ∧ DataType.mkRecord fs = .ok t := by
  rw [typeOf]
  cases fields with
  | nil => simp [fieldsOf, DataType.mkRecord, Record.ofFields, Record.flaw?, Except.map]
  | cons node nodes => exact bind_eq_ok_iff

theorem typeOf_list_eq_ok_iff {name : String} {repetition : Repetition} {fields : List Node}
    {t : DataType} :
    typeOf policies (.group name repetition (some .list) fields) = .ok t ↔
      ∃ e, elementOf policies name fields = .ok e ∧ t = .array e := by
  rw [typeOf, map_eq_ok_iff]

theorem fieldsOf_cons_eq_ok_iff {node : Node} {nodes : List Node} {fs : List Field} :
    fieldsOf policies (node :: nodes) = .ok fs ↔
      ∃ t, typeOf policies node = .ok t ∧ ∃ fs', fieldsOf policies nodes = .ok fs' ∧
        fs = fieldOf node (occurring node.repetition t) :: fs' := by
  rw [fieldsOf, bind_eq_ok_iff]
  simp only [bind_eq_ok_iff, pure_eq_ok_iff, held_eq_ok_iff]
  refine ⟨fun h => ?_, fun h => ?_⟩
  · obtain ⟨u, ⟨t, ht, rfl⟩, fs', hfs, rfl⟩ := h
    exact ⟨t, ht, fs', hfs, rfl⟩
  · obtain ⟨t, ht, fs', hfs, rfl⟩ := h
    exact ⟨_, ⟨t, ht, rfl⟩, fs', hfs, rfl⟩

/-- The one node of a list is repeated, and is the element or a group around it. -/
theorem elementOf_eq_ok_iff {list : String} {nodes : List Node} {t : DataType} :
    elementOf policies list nodes = .ok t ↔
      ∃ node, nodes = [node] ∧ node.repetition = .repeated ∧
        (if isElement list node then typeOf policies node else onlyFieldOf policies node) = .ok t := by
  unfold elementOf
  split
  · simp only [List.cons.injEq, and_true, exists_eq_left']
    split <;> simp_all
  · rename_i hn
    simp only [reduceCtorEq, false_iff]
    rintro ⟨node, rfl, -⟩
    exact hn node rfl

theorem onlyFieldOf_eq_ok_iff {node : Node} {t : DataType} :
    onlyFieldOf policies node = .ok t ↔
      ∃ name repetition refinement element, node = .group name repetition refinement [element] ∧
        ∃ u, typeOf policies element = .ok u ∧ t = occurring element.repetition u := by
  unfold onlyFieldOf
  split
  · simp [held_eq_ok_iff]
  · rename_i hn
    simp only [reduceCtorEq, false_iff]
    rintro ⟨name, repetition, refinement, element, rfl, -⟩
    exact hn name repetition refinement element rfl

/-- The one node of a map is a repeated group of a key and a value. -/
theorem entriesOf_eq_ok_iff {label : String} {nodes : List Node} {t : DataType} :
    entriesOf policies label nodes = .ok t ↔
      ∃ name refinement key value, nodes = [.group name .repeated refinement [key, value]] ∧
        ∃ k, typeOf policies key = .ok k ∧ ∃ v, typeOf policies value = .ok v ∧
          t = .map (occurring key.repetition k) (occurring value.repetition v) := by
  unfold entriesOf
  split
  · simp only [bind_eq_ok_iff, pure_eq_ok_iff, held_eq_ok_iff]
    refine ⟨fun h => ?_, fun h => ?_⟩
    · obtain ⟨k', ⟨k, hk, rfl⟩, v', ⟨v, hv, rfl⟩, rfl⟩ := h
      exact ⟨_, _, _, _, rfl, k, hk, v, hv, rfl⟩
    · obtain ⟨name, refinement, key, value, he, k, hk, v, hv, rfl⟩ := h
      cases he
      exact ⟨_, ⟨k, hk, rfl⟩, _, ⟨v, hv, rfl⟩, rfl⟩
  · rename_i hn
    simp only [reduceCtorEq, false_iff]
    rintro ⟨name, refinement, key, value, rfl, -⟩
    exact hn name refinement key value rfl

/-! ## Induction over nodes -/

/-- The nodes of a group. -/
def Node.children : Node → List Node
  | primitive .. => []
  | group _ _ _ fields => fields

mutual

private theorem inductionNode {P : Node → Prop} (primitive : ∀ n r p a, P (.primitive n r p a))
    (group : ∀ n r a fields, (∀ c ∈ fields, P c ∧ ∀ d ∈ c.children, P d) → P (.group n r a fields)) :
    (node : Node) → P node ∧ ∀ c ∈ node.children, P c
  | .primitive n r p a => ⟨primitive n r p a, by simp [Node.children]⟩
  | .group n r a fields =>
    have h := inductionNodes primitive group fields
    ⟨group n r a fields h, fun c hc => (h c hc).1⟩

private theorem inductionNodes {P : Node → Prop} (primitive : ∀ n r p a, P (.primitive n r p a))
    (group : ∀ n r a fields, (∀ c ∈ fields, P c ∧ ∀ d ∈ c.children, P d) → P (.group n r a fields)) :
    (nodes : List Node) → ∀ c ∈ nodes, P c ∧ ∀ d ∈ c.children, P d
  | [] => by simp
  | node :: nodes =>
    List.forall_mem_cons.2 ⟨inductionNode primitive group node, inductionNodes primitive group nodes⟩

end

/-- Induction over nodes. Lists and maps look through their scaffolding, so that a group may use its nodes
and the nodes of these. -/
@[elab_as_elim]
theorem Node.induction {motive : Node → Prop} (node : Node)
    (primitive : ∀ name repetition physical refinement,
      motive (.primitive name repetition physical refinement))
    (group : ∀ name repetition refinement fields,
      (∀ c ∈ fields, motive c ∧ ∀ d ∈ c.children, motive d) →
        motive (.group name repetition refinement fields)) : motive node :=
  (inductionNode primitive group node).1

/-! ## What is imported is well formed -/

theorem wellFormed_fieldsOf {nodes : List Node} {fs : List Field}
    (hn : ∀ node ∈ nodes, ∀ {t}, typeOf policies node = .ok t → t.WellFormed)
    (h : fieldsOf policies nodes = .ok fs) : ∀ f ∈ fs, f.type.WellFormed := by
  induction nodes generalizing fs with
  | nil =>
    cases h
    simp
  | cons node nodes ih =>
    obtain ⟨t, ht, fs', hfs, rfl⟩ := fieldsOf_cons_eq_ok_iff.1 h
    obtain ⟨head, tail⟩ := List.forall_mem_cons.1 hn
    exact List.forall_mem_cons.2 ⟨wellFormed_occurring (head ht), ih tail hfs⟩

/-- **Every imported type is well formed.** -/
theorem wellFormed_typeOf {node : Node} {t : DataType} (h : typeOf policies node = .ok t) :
    t.WellFormed := by
  induction node using Node.induction generalizing t with
  | primitive => exact (primitiveType_eq_ok_iff.1 h).wellFormed
  | group name repetition refinement fields ih =>
    have hentries : ∀ {label}, entriesOf policies label fields = .ok t → t.WellFormed := by
      intro label he
      obtain ⟨_, _, key, value, rfl, k, hk, v, hv, rfl⟩ := entriesOf_eq_ok_iff.1 he
      have hc := (ih _ (List.mem_cons_self ..)).2
      exact ⟨wellFormed_occurring (hc key (by simp [Node.children]) hk),
        wellFormed_occurring (hc value (by simp [Node.children]) hv)⟩
    cases refinement with
    | none =>
      obtain ⟨fs, hfs, ht⟩ := typeOf_record_eq_ok_iff.1 h
      exact DataType.wellFormed_of_mkRecord ht (wellFormed_fieldsOf (fun c hc => (ih c hc).1) hfs)
    | some refinement =>
      cases refinement with
      | list =>
        obtain ⟨e, he, rfl⟩ := typeOf_list_eq_ok_iff.1 h
        obtain ⟨c, rfl, -, he⟩ := elementOf_eq_ok_iff.1 he
        obtain ⟨hc, hd⟩ := ih c (List.mem_cons_self ..)
        show e.WellFormed
        split at he
        · exact hc he
        · obtain ⟨_, _, _, d, rfl, u, hu, rfl⟩ := onlyFieldOf_eq_ok_iff.1 he
          exact wellFormed_occurring (hd d (by simp [Node.children]) hu)
      | map => exact hentries h
      | mapKeyValue => exact hentries h
      | _ => cases h

/-- **Every imported record is well formed.** -/
theorem wellFormed_recordOf {root : Node} {r : Record} (h : recordOf policies root = .ok r) :
    r.toType.WellFormed := by
  unfold recordOf at h
  split at h
  · split at h
    · cases h
    · obtain ⟨fs, hfs, hr⟩ := bind_eq_ok_iff.1 h
      obtain rfl := Record.ofFields_eq_ok_iff.1 hr
      have hf := wellFormed_fieldsOf (fun _ _ => wellFormed_typeOf) hfs
      exact DataType.wellFormed_record_iff.2 ⟨r.valid, hf⟩
  · cases h
  · cases h

end SchemaBridge.Source
