import SchemaBridge.Proofs.Source.Import

/-!
# The layouts of a list

A list has three levels today: the list, a repeated group, and the element in it (`threeLevel`). Older
writers left the middle level out and repeated the element itself (`twoLevel`), or the list as well, so that
a record holds the repeated element as a field. A reader meets a repeated group and has to tell which layout
it is in. `Standalone` are the elements for which it can: repeated in a list, they are read as what they are,
so that the layout makes no difference. Every other group around one node is taken for the middle level.

Main statement: `list_layouts_interchangeable`.
-/

namespace SchemaBridge.Source

variable {policies : SourcePolicies}

/-! ## The three layouts -/

/-- A list with a repeated group around its element. -/
def threeLevel (list : String) (repetition : Repetition) (inner : String) (element : Node) : Node :=
  .group list repetition (some .list) [.group inner .repeated none [element]]

/-- A list that repeats its element. -/
def twoLevel (list : String) (repetition : Repetition) (element : Node) : Node :=
  .group list repetition (some .list) [element.repeating .repeated]

/-- A group of this name is an element of the list, whatever it holds. -/
def MarksElement (list name : String) : Prop :=
  name = "array" ∨ name = list ++ "_tuple"

instance (list name : String) : Decidable (MarksElement list name) :=
  inferInstanceAs (Decidable (_ ∨ _))

/-- Elements that the list may repeat without a group around them. -/
inductive Standalone (list : String) : Node → Prop
  | column (name : String) (repetition : Repetition) (physical : Physical)
      (refinement : Option Refinement) :
      Standalone list (.primitive name repetition physical refinement)
  | annotated (name : String) (repetition : Repetition) (refinement : Refinement) (fields : List Node) :
      Standalone list (.group name repetition (some refinement) fields)
  | several {name : String} {repetition : Repetition} {fields : List Node} (h : 2 ≤ fields.length) :
      Standalone list (.group name repetition none fields)
  | marked {name : String} {repetition : Repetition} {child : Node} (h : MarksElement list name) :
      Standalone list (.group name repetition none [child])

/-! ## A node and its repetition -/

theorem repetition_repeating (r : Repetition) (node : Node) : (node.repeating r).repetition = r := by
  cases node <;> rfl

theorem name_repeating (r : Repetition) (node : Node) : (node.repeating r).name = node.name := by
  cases node <;> rfl

/-- The repetition of a node is seen by its parent only. -/
theorem typeOf_repeating (r : Repetition) (node : Node) :
    typeOf policies (node.repeating r) = typeOf policies node := by
  cases node with
  | primitive => rfl
  | group name repetition refinement fields =>
    cases refinement with
    | none => rw [Node.repeating, typeOf, typeOf]
    | some a => cases a <;> rw [Node.repeating, typeOf, typeOf] <;> simp

theorem isElement_repeating (list : String) (r : Repetition) (node : Node) :
    isElement list (node.repeating r) = isElement list node := by
  cases node with
  | primitive => rfl
  | group name repetition refinement fields => cases refinement <;> rfl

/-- A repeated node is an array to its parent. -/
theorem held_repeated {node : Node} (r : Except SchemaError DataType) (h : node.repetition = .repeated) :
    held node r = within node.name (r.map .array) := by
  have hoccurring : occurring .repeated = .array := by
    funext t
    rfl
  rw [held, h, hoccurring]

theorem held_of_not_repeated {node : Node} (r : Except SchemaError DataType)
    (h : node.repetition ≠ .repeated) : held node r = within node.name r := by
  have hoccurring : occurring node.repetition = id := by
    funext t
    rw [occurring, if_neg h, id]
  cases r <;> simp [held, hoccurring, Except.map]

theorem map_within (segment : String) (f : DataType → DataType) (r : Except SchemaError DataType) :
    (within segment r).map f = within segment (r.map f) := by
  cases r <;> rfl

/-! ## Lists -/

theorem isElement_group_iff {list name : String} {repetition : Repetition} {child : Node} :
    isElement list (.group name repetition none [child]) = true ↔ MarksElement list name := by
  simp [isElement, MarksElement]

theorem Standalone.isElement {list : String} {element : Node} (h : Standalone list element) :
    isElement list element = true := by
  cases h with
  | column | annotated => rfl
  | several h =>
    have h : 1 < _ := h
    simp [Source.isElement, h]
  | marked h => exact isElement_group_iff.2 h

theorem onlyFieldOf_repeating (r : Repetition) (node : Node) :
    onlyFieldOf policies (node.repeating r) = onlyFieldOf policies node := by
  cases node with
  | primitive => rfl
  | group name repetition refinement fields =>
    match fields with
    | [] => rfl
    | [_] => rfl
    | _ :: _ :: _ => rfl

theorem typeOf_twoLevel (list : String) (repetition : Repetition) (element : Node) :
    typeOf policies (twoLevel list repetition element) =
      (if isElement list element then typeOf policies element else onlyFieldOf policies element).map
        .array := by
  rw [twoLevel, typeOf, elementOf, if_pos (repetition_repeating ..), isElement_repeating, typeOf_repeating,
    onlyFieldOf_repeating]

/-- A list that repeats a standalone element is an array of it. -/
theorem typeOf_twoLevel_of_standalone {list : String} {element : Node} (h : Standalone list element)
    (repetition : Repetition) :
    typeOf policies (twoLevel list repetition element) = (typeOf policies element).map .array := by
  rw [typeOf_twoLevel, if_pos h.isElement]

/-- A repeated group around one node is read past, unless it is marked as an element. -/
theorem typeOf_twoLevel_of_not_marksElement {list name : String} (repetition r : Repetition) (child : Node)
    (h : ¬MarksElement list name) :
    typeOf policies (twoLevel list repetition (.group name r none [child])) =
      (held child (typeOf policies child)).map .array := by
  rw [typeOf_twoLevel, if_neg (mt isElement_group_iff.1 h), onlyFieldOf]

/-- A three-level list repeats a group around one node. -/
theorem threeLevel_eq_twoLevel (list : String) (repetition : Repetition) (inner : String) (element : Node) :
    threeLevel list repetition inner element =
      twoLevel list repetition (.group inner .repeated none [element]) :=
  rfl

/-! ## Records -/

theorem fieldsOf_append (before after : List Node) :
    fieldsOf policies (before ++ after) = (do
      let fs ← fieldsOf policies before
      let gs ← fieldsOf policies after
      return fs ++ gs) := by
  induction before with
  | nil =>
    rw [List.nil_append, fieldsOf, ok_bind]
    cases fieldsOf policies after <;> rfl
  | cons node before ih =>
    rw [List.cons_append, fieldsOf, fieldsOf, ih]
    simp only [bind_assoc, pure_bind, List.cons_append]

/-- A repeated node among those of a record is a field that is an array, and that is never missing. -/
theorem fieldsOf_append_repeated_bind {α : Type} (before after : List Node) (element : Node)
    (f : List Field → Except SchemaError α) :
    fieldsOf policies (before ++ element.repeating .repeated :: after) >>= f = (do
      let fs ← fieldsOf policies before
      let t ← within element.name (typeOf policies element)
      let gs ← fieldsOf policies after
      f (fs ++ ⟨element.name, .array t, false⟩ :: gs)) := by
  have hfield (t : DataType) :
      fieldOf (element.repeating .repeated) t = ⟨element.name, t, false⟩ := by
    rw [fieldOf, name_repeating, repetition_repeating]
    rfl
  rw [fieldsOf_append, fieldsOf, typeOf_repeating, held_repeated _ (repetition_repeating ..), name_repeating]
  simp only [hfield, bind_assoc, pure_bind]
  congr 1
  funext fs
  cases typeOf policies element <;> rfl

/-- **The layouts of a list are interchangeable.** A standalone element is read as an array of what it is in
both lists, and in both the reading fails with the error of the element; with three levels the error names the
element. A record that repeats an element has a field that is such an array, and never missing. Any other
group around one node is read past by a list that repeats it. -/
theorem list_layouts_interchangeable (policies : SourcePolicies) (list : String) (repetition : Repetition) :
    (∀ element, Standalone list element → element.repetition ≠ .repeated →
      typeOf policies (twoLevel list repetition element) = (typeOf policies element).map .array ∧
      ∀ inner, ¬MarksElement list inner →
        typeOf policies (threeLevel list repetition inner element) =
          within element.name (typeOf policies (twoLevel list repetition element))) ∧
    (∀ element name before after,
      (typeOf policies (.group name repetition none (before ++ element.repeating .repeated :: after)) = do
        let fs ← fieldsOf policies before
        let t ← within element.name (typeOf policies element)
        let gs ← fieldsOf policies after
        DataType.mkRecord (fs ++ ⟨element.name, .array t, false⟩ :: gs)) ∧
      (recordOf policies (.group name repetition none (before ++ element.repeating .repeated :: after)) = do
        let fs ← fieldsOf policies before
        let t ← within element.name (typeOf policies element)
        let gs ← fieldsOf policies after
        Record.ofFields (fs ++ ⟨element.name, .array t, false⟩ :: gs))) ∧
    ∀ name r child, ¬MarksElement list name →
      typeOf policies (twoLevel list repetition (.group name r none [child])) =
        (within child.name ((typeOf policies child).map (occurring child.repetition))).map .array := by
  refine ⟨fun element hstandalone hrep => ?_, fun element name before after => ⟨?_, ?_⟩,
    fun name r child h => typeOf_twoLevel_of_not_marksElement repetition r child h⟩
  · have htwo : typeOf policies (twoLevel list repetition element) = (typeOf policies element).map .array :=
      typeOf_twoLevel_of_standalone hstandalone repetition
    refine ⟨htwo, fun inner hinner => ?_⟩
    rw [htwo, threeLevel_eq_twoLevel, typeOf_twoLevel_of_not_marksElement _ _ _ hinner,
      held_of_not_repeated _ hrep, map_within]
  · rw [typeOf, if_neg (by simp)]
    exact fieldsOf_append_repeated_bind before after element DataType.mkRecord
  · rw [recordOf, if_neg (by simp)]
    exact fieldsOf_append_repeated_bind before after element Record.ofFields

/-- A map from texts to numbers. -/
def sizesNode : Node :=
  .group "sizes" .optional (some .map) [
    .group "key_value" .repeated none [
      .primitive "key" .required .byteArray (some .utf8), .primitive "value" .optional .int32 none]]

/-- A column without a type. -/
def spanNode : Node := .primitive "span" .required (.fixedLenByteArray 12) (some .interval)

theorem list_layouts_of_sizesNode :
    typeOf {} (twoLevel "tags" .optional sizesNode) = .ok (.array (.map .string .int32)) ∧
      typeOf {} (threeLevel "tags" .optional "list" sizesNode) = .ok (.array (.map .string .int32)) ∧
      typeOf {} (.group "shop" .optional none [sizesNode.repeating .repeated]) =
        .ok (.record [⟨"sizes", .array (.map .string .int32), false⟩]) ∧
      typeOf {} (twoLevel "tags" .optional spanNode) =
        .error (.unsupportedSource "FIXED_LEN_BYTE_ARRAY(12)" "INTERVAL" "") ∧
      typeOf {} (threeLevel "tags" .optional "list" spanNode) =
        .error (.unsupportedSource "FIXED_LEN_BYTE_ARRAY(12)" "INTERVAL" "span") ∧
      typeOf {} (twoLevel "tags" .optional (.group "bag" .required none [sizesNode.repeating .repeated])) =
        .ok (.array (.array (.map .string .int32))) := by
  obtain ⟨hlist, hrecord, hgroup⟩ := list_layouts_interchangeable {} "tags" .optional
  have hinner : ¬MarksElement "tags" "list" := by decide
  have hbag : ¬MarksElement "tags" "bag" := by decide
  obtain ⟨hsizes, hsizesIn⟩ := hlist sizesNode (.annotated ..) (by decide)
  obtain ⟨hspan, hspanIn⟩ := hlist spanNode (.column ..) (by decide)
  exact ⟨hsizes.trans (by decide +kernel), (hsizesIn "list" hinner).trans (by decide +kernel),
    (hrecord sizesNode "shop" [] []).1.trans (by decide +kernel), hspan.trans (by decide +kernel),
    (hspanIn "list" hinner).trans (by decide +kernel),
    (hgroup "bag" .required _ hbag).trans (by decide +kernel)⟩

end SchemaBridge.Source
