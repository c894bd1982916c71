/-
# The document of an attribute tree

Every branch becomes an object whose field names are spelled by the style;
where two names get one spelling, the place of the first and the value of the
last stay. Only the branch `resources` at the root becomes a list: each of
its entries must be a branch, and is an object that starts with the entry's
name and leaves out a field spelled `name`. Children are taken in order and
the first failure is the answer.

Key definitions: `Node.fields`, `Node.resourceList`, `Node.document`.
-/
import ResourceTemplate.Node.Basic
import ResourceTemplate.Value.Document

namespace ResourceTemplate

/-- The field of a tree that holds its resources by their names. -/
def resourcesField : String := "resources"

/-- The field of a document that names a resource. -/
def nameField : String := "name"

namespace Node

mutual
/-- The document of a node below the root. -/
def inner (s : Scope) : Node → Except Error Document
  | .leaf v => v.document s
  | .branch children => do
    let fields ← Node.fields s children
    return .object (Entries.ofList fields)
termination_by structural n => n

/-- The fields for the children of a branch, as they come. -/
def fields (s : Scope) : List (String × Node) → Except Error (List (String × Document))
  | [] => return []
  | (name, n) :: rest => do
    let d ← n.inner s
    let ds ← Node.fields s rest
    return (s.style.spell name, d) :: ds
termination_by structural children => children
end

/-- The document of a resource, which takes its name from its place. -/
def resourceDocument (s : Scope) (name : String) : Node → Except Error Document
  | .leaf _ => .error (.invalidResource name)
  | .branch children => do
    let rest ← fields s (children.filter fun c => c.1 != nameField)
    return .object (Entries.ofList
      ((s.style.spell nameField, .str (s.style.spell name)) :: rest))

/-- The documents of the resources, in order. -/
def resourceList (s : Scope) : List (String × Node) → Except Error (List Document)
  | [] => return []
  | (name, n) :: rest => do
    let d ← n.resourceDocument s name
    let ds ← resourceList s rest
    return d :: ds

/-- The document of a child of the root. -/
def rootChild (s : Scope) (name : String) : Node → Except Error Document
  | .leaf v => v.document s
  | .branch children =>
    if name = resourcesField then do
      let ds ← resourceList s children
      return .list ds
    else (Node.branch children).inner s

/-- The fields for the children of the root, as they come. -/
def rootFields (s : Scope) : List (String × Node) → Except Error (List (String × Document))
  | [] => return []
  | (name, n) :: rest => do
    let d ← n.rootChild s name
    let ds ← rootFields s rest
    return (s.style.spell name, d) :: ds

/-- The document of a tree. -/
def document (s : Scope) : Node → Except Error Document
  | .leaf v => v.document s
  | .branch children => do
    let fields ← rootFields s children
    return .object (Entries.ofList fields)

end Node
end ResourceTemplate
