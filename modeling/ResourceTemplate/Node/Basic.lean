/-
# The attribute tree

A node is a leaf with a value or a branch of named children, in the order in
which their names first came. A node is made by asking for it: following a
path creates the branches that are missing and turns the leaves on its way
into branches. So the last write decides what a node is.

Key definitions: `Node`, `Node.at?`, `Node.update`, `Node.reach`,
`Node.assign`, `Node.Edit`, `Node.edit`.
Key theorems: `Node.at?_append`, `Node.update_append`.
-/
import ResourceTemplate.Value.Basic

namespace ResourceTemplate

/-- A node of the attribute tree. -/
inductive Node
  | leaf (value : Value)
  | branch (children : List (String × Node))

namespace Node

/-- A fresh node: a branch without children. -/
def empty : Node := .branch []

/-! ### Reading -/

/-- The children of a node; a leaf has none. -/
def children : Node → Entries Node
  | .leaf _ => []
  | .branch cs => cs

/-- The value of a leaf. -/
def value? : Node → Option Value
  | .leaf v => some v
  | .branch _ => none

def isLeaf (n : Node) : Bool := n.value?.isSome

def isBranch (n : Node) : Bool := n.value?.isNone

/-- The child of a name, if there is one. -/
def child? (n : Node) (name : String) : Option Node := n.children.get? name

/-- The node at a path, if there is one. -/
def at? (n : Node) : List String → Option Node
  | [] => some n
  | name :: path => (n.child? name).bind fun c => c.at? path

theorem at?_append (n : Node) (p q : List String) :
    n.at? (p ++ q) = (n.at? p).bind (·.at? q) := by
  induction p generalizing n with
  | nil => rfl
  | cons name p ih =>
    simp only [List.cons_append, at?]
    cases n.child? name with
    | none => rfl
    | some c => exact ih c

/-! ### Writing -/

/-- The tree with `f` applied to the node at a path, which is made on the
way. -/
def update (f : Node → Node) : List String → Node → Node
  | [], n => f n
  | name :: path, n =>
    .branch (n.children.alter name fun c? => update f path (c?.getD empty))

/-- Updating at `p ++ q` is updating at `q` from the node at `p`. -/
theorem update_append (f : Node → Node) (p q : List String) (n : Node) :
    update f (p ++ q) n = update (update f q) p n := by
  induction p generalizing n with
  | nil => rfl
  | cons name p ih => simp only [List.cons_append, update, ih]

/-- The tree in which the node at a path is there. -/
def reach (n : Node) (path : List String) : Node := update id path n

/-- The tree with a value written at a path; what was below is gone. -/
def assign (n : Node) (path : List String) (v : Value) : Node :=
  update (fun _ => .leaf v) path n

/-- The tree with a value written under a name of the node at a path. -/
def set (n : Node) (path : List String) (name : String) (v : Value) : Node :=
  n.assign (path ++ [name]) v

/-- The tree with dependencies written on the node at a path. -/
def dependsOn (n : Node) (path : List String) (refs : List Reference) : Node :=
  n.set path "depends_on" (.dependsOn refs)

/-- The tree with the node at a path replaced. -/
def graft (n : Node) (path : List String) (scion : Node) : Node :=
  update (fun _ => scion) path n

/-- A write to the tree. -/
inductive Edit
  | reach (path : List String)
  | assign (path : List String) (v : Value)
  | dependsOn (path : List String) (refs : List Reference)
  | graft (path : List String) (scion : Node)

/-- The tree after a write. -/
def edit (n : Node) : Edit → Node
  | .reach path => n.reach path
  | .assign path v => n.assign path v
  | .dependsOn path refs => n.dependsOn path refs
  | .graft path scion => n.graft path scion

end Node

/-! ### Equality

The order of children has no meaning. -/

mutual
/-- Whether two trees are equal. -/
def Node.same : Node → Node → Bool
  | .leaf v, .leaf w => v.same w
  | .branch as, .branch bs => as.length == bs.length && Node.sameUnder bs as
  | _, _ => false
termination_by structural n => n

/-- Whether each child has an equal one under its name in `others`. -/
def Node.sameUnder (others : List (String × Node)) : List (String × Node) → Bool
  | [] => true
  | (name, a) :: rest =>
    (match Entries.get? others name with
      | some b => a.same b
      | none => false) && Node.sameUnder others rest
termination_by structural rest => rest
end

end ResourceTemplate
