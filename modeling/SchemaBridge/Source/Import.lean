import SchemaBridge.Source.Primitive

/-!
# Data types of source nodes

`Source.typeOf` reads a node as a data type. A plain group is a record. A group annotated as a list or
a map is one with its scaffolding removed; lists come in a three-level layout and in older layouts
without an element group. A repeated node is an array where its parent holds it as a field.
`Source.recordOf` reads the root of a schema.
-/

namespace SchemaBridge.Source

/-- The refusal of a group. -/
def unsupportedGroup (refinement : String) : SchemaError :=
  .unsupportedSource "GROUP" refinement ""

/-- The refusal of a group without fields that would be a record. -/
def emptyGroup (name : String) : SchemaError :=
  unsupportedGroup ("NONE (group '" ++ name ++ "' has no fields)")

/-- The type of a node with that repetition, seen from its parent. -/
def occurring (repetition : Repetition) (t : DataType) : DataType :=
  if repetition = .repeated then .array t else t

/-- The type of a node as its parent holds it: errors name the node. -/
def held (node : Node) (t : Except SchemaError DataType) : Except SchemaError DataType :=
  within node.name (t.map (occurring node.repetition))

/-- The field that a node describes in its parent. -/
def fieldOf (node : Node) (type : DataType) : Field :=
  ⟨node.name, type, node.repetition = .optional⟩

/-- Whether the repeated node of a list is the element itself, not a group around it. Older layouts
mark a group without annotation as the element by its size or its name. -/
def isElement (list : String) : Node → Bool
  | .primitive .. => true
  | .group _ _ (some _) _ => true
  | .group name _ none fields =>
    1 < fields.length || name == "array" || name == list ++ "_tuple"

mutual

/-- The type of a node, its own repetition aside. -/
def typeOf (policies : SourcePolicies) : Node → Except SchemaError DataType
  | .primitive _ _ physical refinement => primitiveType policies physical refinement
  | .group name _ none fields =>
    if fields.isEmpty then .error (emptyGroup name)
    else (fieldsOf policies fields).bind DataType.mkRecord
  | .group name _ (some .list) fields => (elementOf policies name fields).map .array
  | .group _ _ (some .map) fields => entriesOf policies "MAP" fields
  | .group _ _ (some .mapKeyValue) fields => entriesOf policies "MAP_KEY_VALUE" fields
  | .group _ _ (some refinement) _ => .error (unsupportedGroup refinement.label)

/-- The fields that the nodes of a group describe. -/
def fieldsOf (policies : SourcePolicies) : List Node → Except SchemaError (List Field)
  | [] => .ok []
  | node :: nodes => do
    let type ← held node (typeOf policies node)
    let fields ← fieldsOf policies nodes
    return fieldOf node type :: fields

/-- The element type of the list group named `list`. -/
def elementOf (policies : SourcePolicies) (list : String) : List Node → Except SchemaError DataType
  | [node] =>
    if node.repetition = .repeated then
      if isElement list node then typeOf policies node else onlyFieldOf policies node
    else .error (unsupportedGroup "LIST")
  | _ => .error (unsupportedGroup "LIST")

/-- The type of the one node in the element group of a list. -/
def onlyFieldOf (policies : SourcePolicies) : Node → Except SchemaError DataType
  | .group _ _ _ [element] => held element (typeOf policies element)
  | _ => .error (unsupportedGroup "LIST")

/-- The type of a map group, which is annotated `label`. -/
def entriesOf (policies : SourcePolicies) (label : String) :
    List Node → Except SchemaError DataType
  | [.group _ .repeated _ [key, value]] => do
    let keyType ← held key (typeOf policies key)
    let valueType ← held value (typeOf policies value)
    return .map keyType valueType
  | _ => .error (unsupportedGroup label)

end

/-- The record that the root of a schema describes. -/
def recordOf (policies : SourcePolicies) : Node → Except SchemaError Record
  | .group name _ none fields =>
    if fields.isEmpty then .error (emptyGroup name)
    else (fieldsOf policies fields).bind Record.ofFields
  | .group name _ refinement _ =>
    .error ((unsupportedGroup (refinementLabel refinement)).within name)
  | .primitive name _ physical refinement =>
    .error ((unsupported physical refinement).within name)

end SchemaBridge.Source
