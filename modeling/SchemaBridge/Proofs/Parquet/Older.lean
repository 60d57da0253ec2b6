import SchemaBridge.Proofs.Parquet.Decimals

/-!
# Older annotations

Many logical types have a converted type that says the same. `Node.Older node node'`: the tree `node'` is
`node` with the converted type in place of the logical type at some of its nodes, where there is one. The
attributes of a decimal are then those of the storage (`Node.CarriesDecimals`); a group has none, so a
decimal on a group has no older form.

Main statement: `older_reads_alike`, a tree and its older forms are the same source tree, so that they are
read alike.
-/

namespace SchemaBridge.Parquet

/-! ## Trees in an older form -/

/-- The annotation of a node stays, or takes its older form. `attributes` says whether the node has the
attributes of a decimal. -/
inductive Info.Older (attributes : Bool) : Info → Info → Prop
  | keep (info : Info) : Older attributes info info
  | replace {info : Info} {l : Logical} : info.logical = some l → l.converted ≠ .none →
      (l.converted = .decimal → attributes = true) →
      Older attributes info { info with logical := none, converted := l.converted }

mutual

/-- The second tree is the first one with some annotations in their older form. -/
inductive Node.Older : Node → Node → Prop
  | primitive {info info' : Info} (storage : Storage) : info.Older true info' →
      Node.Older (.primitive info storage) (.primitive info' storage)
  | group {info info' : Info} {fields fields' : List Node} : info.Older false info' →
      NodesOlder fields fields' → Node.Older (.group info fields) (.group info' fields')

inductive NodesOlder : List Node → List Node → Prop
  | nil : NodesOlder [] []
  | cons {node node' : Node} {nodes nodes' : List Node} : Node.Older node node' →
      NodesOlder nodes nodes' → NodesOlder (node :: nodes) (node' :: nodes')

end

/-! ## Annotations -/

/-- The converted type of an integer says the same, where there is one. -/
theorem toRefinement?_convertedInteger {width : Int8} {signed : Bool} {precision scale : Int32}
    (h : convertedInteger width signed ≠ .none) :
    (convertedInteger width signed).toRefinement? precision scale =
      some (.integer (widthOf width) signed) := by
  have hwidth : width = 8 ∨ width = 16 ∨ width = 32 ∨ width = 64 := by
    refine Decidable.byContradiction fun hno => ?_
    simp only [not_or] at hno
    obtain ⟨h8, h16, h32, h64⟩ := hno
    exact h (by rw [convertedInteger, if_neg h8, if_neg h16, if_neg h32, if_neg h64])
  rcases hwidth with rfl | rfl | rfl | rfl <;> cases signed <;> rfl

/-- **The converted type of a logical type says the same**, where there is one. -/
theorem toRefinement?_converted {l : Logical} {precision scale : Int32} (h : l.converted ≠ .none)
    (hd : ∀ s p, l = .decimal s p → precision = p ∧ scale = s) :
    l.converted.toRefinement? precision scale = some l.toRefinement := by
  cases l with
  | decimal s p =>
    obtain ⟨rfl, rfl⟩ := hd s p rfl
    rfl
  | integer width signed => exact toRefinement?_convertedInteger h
  | time utc unit | timestamp utc unit => cases unit <;> first | rfl | exact absurd rfl h
  | unknown | uuid | float16 => exact absurd rfl h
  | _ => rfl

namespace Info.Older

variable {attributes : Bool} {info info' : Info}

theorem name_eq (h : info.Older attributes info') : info'.name = info.name := by
  cases h <;> rfl

theorem repetition_eq (h : info.Older attributes info') : info'.repetition = info.repetition := by
  cases h <;> rfl

/-- The older form says the same on a node with these decimal attributes, if they are those of the
decimal that they may be used for. -/
theorem refinement?_eq {precision scale : Int32} (h : info.Older attributes info')
    (hd : attributes = true → ∀ s p, info.logical = some (.decimal s p) → precision = p ∧ scale = s) :
    info'.refinement? precision scale = info.refinement? precision scale := by
  cases h with
  | keep => rfl
  | @replace l hl hconverted hdecimal =>
    have hsame : l.converted.toRefinement? precision scale = some l.toRefinement := by
      refine toRefinement?_converted hconverted fun s p hsp => ?_
      subst hsp
      exact hd (hdecimal rfl) s p hl
    rw [Info.refinement?, Info.refinement?, hl]
    exact hsame

end Info.Older

/-! ## Source trees -/

mutual

/-- A tree and its older forms are the same source tree. -/
theorem Node.Older.toSource_eq {node node' : Node} (h : node.Older node')
    (hd : node.CarriesDecimals) : node'.toSource = node.toSource := by
  match h with
  | .primitive storage hinfo =>
    rw [Node.toSource, Node.toSource, hinfo.name_eq, hinfo.repetition_eq,
      hinfo.refinement?_eq fun _ => hd]
  | .group hinfo hfields =>
    rw [Node.toSource, Node.toSource, hinfo.name_eq, hinfo.repetition_eq,
      hinfo.refinement?_eq fun hno => absurd hno Bool.false_ne_true, hfields.toSources_eq hd]

theorem NodesOlder.toSources_eq {nodes nodes' : List Node} (h : NodesOlder nodes nodes')
    (hd : CarryDecimals nodes) : toSources nodes' = toSources nodes := by
  match h with
  | .nil => rfl
  | .cons hnode hnodes =>
    rw [toSources, toSources, hnode.toSource_eq hd.1, hnodes.toSources_eq hd.2]

end

/-- **A tree and its older forms are read alike**: they are the same source tree, so that the same type,
the same record or the same error comes out of them, whatever the policies. -/
theorem older_reads_alike {node node' : Node} (h : node.Older node') (hd : node.CarriesDecimals) :
    node'.toSource = node.toSource ∧
      ∀ policies, typeOf policies node' = typeOf policies node ∧
        recordOf policies node' = recordOf policies node := by
  have hsource := h.toSource_eq hd
  refine ⟨hsource, fun policies => ?_⟩
  rw [typeOf, typeOf, recordOf, recordOf, hsource]
  exact ⟨rfl, rfl⟩

/-- A schema whose annotations are logical types. -/
def logicalTree : Node :=
  .group ⟨"sales", none, none, .none⟩
    [.primitive ⟨"id", some .required, some .uuid, .none⟩ ⟨.fixedLenByteArray, 16, -1, -1⟩,
      .primitive ⟨"price", some .required, some (.decimal 2 9), .none⟩ ⟨.int32, -1, 9, 2⟩,
      .primitive ⟨"sold", some .optional, some (.timestamp true .micros), .none⟩ ⟨.int64, -1, -1, -1⟩,
      .primitive ⟨"count", some .optional, some (.integer 32 false), .uint32⟩ ⟨.int32, -1, -1, -1⟩,
      .group ⟨"tags", some .optional, some .list, .none⟩
        [.group ⟨"list", some .repeated, none, .none⟩
          [.primitive ⟨"element", some .optional, some .string, .none⟩ ⟨.byteArray, -1, -1, -1⟩]]]

/-- The same schema with converted types, where there are any. -/
def convertedTree : Node :=
  .group ⟨"sales", none, none, .none⟩
    [.primitive ⟨"id", some .required, some .uuid, .none⟩ ⟨.fixedLenByteArray, 16, -1, -1⟩,
      .primitive ⟨"price", some .required, none, .decimal⟩ ⟨.int32, -1, 9, 2⟩,
      .primitive ⟨"sold", some .optional, none, .timestampMicros⟩ ⟨.int64, -1, -1, -1⟩,
      .primitive ⟨"count", some .optional, none, .uint32⟩ ⟨.int32, -1, -1, -1⟩,
      .group ⟨"tags", some .optional, none, .list⟩
        [.group ⟨"list", some .repeated, none, .none⟩
          [.primitive ⟨"element", some .optional, none, .utf8⟩ ⟨.byteArray, -1, -1, -1⟩]]]

/-- What both schemas describe, if unsigned numbers are widened. -/
def sales : Record where
  fields := [⟨"id", .binary, false⟩, ⟨"price", .decimal 9 2, false⟩, ⟨"sold", .timestampMicros, true⟩,
    ⟨"count", .int64, true⟩, ⟨"tags", .array .string, true⟩]
  valid := by constructor <;> decide

theorem convertedTree_reads_alike :
    logicalTree.Older convertedTree ∧ logicalTree.CarriesDecimals ∧
      convertedTree.toSource = logicalTree.toSource ∧
      (∀ policies, typeOf policies convertedTree = typeOf policies logicalTree ∧
        recordOf policies convertedTree = recordOf policies logicalTree) ∧
      typeOf {} logicalTree = .ok sales.toType ∧ typeOf {} convertedTree = .ok sales.toType ∧
      recordOf {} logicalTree = .ok sales ∧ recordOf {} convertedTree = .ok sales ∧
      typeOf { unsigned := .reject } logicalTree =
        .error (.unsupportedSource "INT32" "UINT_32" "count") ∧
      typeOf { unsigned := .reject } convertedTree =
        .error (.unsupportedSource "INT32" "UINT_32" "count") := by
  have older : logicalTree.Older convertedTree := by
    refine .group (.keep _) (.cons (.primitive _ (.keep _))
      (.cons (.primitive _ (.replace (l := .decimal 2 9) rfl ?_ ?_))
      (.cons (.primitive _ (.replace (l := .timestamp true .micros) rfl ?_ ?_))
      (.cons (.primitive _ (.replace (l := .integer 32 false) rfl ?_ ?_))
      (.cons (.group (.replace (l := .list) rfl ?_ ?_) (.cons (.group (.keep _)
      (.cons (.primitive _ (.replace (l := .string) rfl ?_ ?_)) .nil)) .nil)) .nil))))) <;> decide
  have decimals : logicalTree.CarriesDecimals := by
    simp [logicalTree, Node.CarriesDecimals, CarryDecimals]
  obtain ⟨hsource, halike⟩ := older_reads_alike older decimals
  have htype : typeOf {} logicalTree = .ok sales.toType := by decide +kernel
  have hrecord : recordOf {} logicalTree = .ok sales := by decide +kernel
  have hrefused : typeOf { unsigned := .reject } logicalTree =
      .error (.unsupportedSource "INT32" "UINT_32" "count") := by decide +kernel
  exact ⟨older, decimals, hsource, halike, htype, (halike {}).1.trans htype, hrecord,
    (halike {}).2.trans hrecord, hrefused, (halike { unsigned := .reject }).1.trans hrefused⟩

end SchemaBridge.Parquet
