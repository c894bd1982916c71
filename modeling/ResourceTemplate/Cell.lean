/-
# The attribute tree as it is kept

A node of the tree is kept in a cell, which has room for both: the value that
the node holds as a leaf and the children that it has as a branch. Only the
calls keep the two apart. Assigning a value drops the children, and asking
for a child drops the value; whoever reads a cell asks for the value first,
so a cell that holds one stands for a leaf.

A call that gives access to a child is written as what is then done to the
child.

Key definitions: `Cell`, `Cell.child`, `Cell.path`, `Cell.assign`,
`Cell.Call`, `Cell.write`, `Cell.node`, `Cell.ofNode`.
-/
import ResourceTemplate.Node.Basic

namespace ResourceTemplate

/-- A node as it is kept: the value of a leaf and the children of a branch. -/
structure Cell where
  value? : Option Value := none
  children : List (String × Cell) := []

namespace Cell

/-- A fresh cell: it holds nothing. -/
def fresh : Cell := {}

/-! ### Reading -/

def isLeaf (c : Cell) : Bool := c.value?.isSome

def isBranch (c : Cell) : Bool := c.value?.isNone

/-- The child of a name, if there is one. -/
def child? (c : Cell) (name : String) : Option Cell := Entries.get? c.children name

/-- The cell at a path, if there is one. -/
def at? (c : Cell) : List String → Option Cell
  | [] => some c
  | name :: path => (c.child? name).bind fun d => d.at? path

/-! ### Writing -/

/-- The cell after asking for a child, which is made if it is missing, and
doing `f` to it. -/
def child (name : String) (f : Cell → Cell) (c : Cell) : Cell where
  value? := none
  children := Entries.alter name (fun d? => f (d?.getD fresh)) c.children

/-- The cell after following a path and doing `f` to the cell at its end. -/
def path (names : List String) (f : Cell → Cell) : Cell → Cell := names.foldr child f

/-- The cell after a value is assigned to it. -/
def assign (v : Value) (c : Cell) : Cell := { c with value? := some v, children := [] }

/-- The cell after a value is assigned to its child of a name. -/
def set (name : String) (v : Value) : Cell → Cell := child name (assign v)

/-- The cell after its dependencies are recorded. -/
def dependsOn (refs : List Reference) : Cell → Cell := set "depends_on" (.dependsOn refs)

/-- A call on a cell. -/
inductive Call
  | child (name : String)
  | path (names : List String)
  | set (name : String) (v : Value)
  | assign (v : Value)
  | dependsOn (refs : List Reference)

/-- The cell after a call. -/
def Call.apply : Call → Cell → Cell
  | .child name => Cell.child name id
  | .path names => Cell.path names id
  | .set name v => Cell.set name v
  | .assign v => Cell.assign v
  | .dependsOn refs => Cell.dependsOn refs

/-- The cell after a call on the cell at a path. -/
def write (c : Cell) (place : List String) (call : Call) : Cell := c.path place call.apply

/-- The cell after the one at a path is overwritten with another. -/
def overwrite (c : Cell) (place : List String) (d : Cell) : Cell := c.path place fun _ => d

/-! ### The node that a cell stands for -/

mutual
/-- The node that a cell stands for. -/
def node : Cell → Node
  | { value? := some v, children := _ } => .leaf v
  | { value? := none, children } => .branch (nodes children)
termination_by structural c => c

/-- The nodes that children stand for. -/
def nodes : List (String × Cell) → List (String × Node)
  | [] => []
  | (name, c) :: rest => (name, c.node) :: nodes rest
termination_by structural children => children
end

mutual
/-- A cell that stands for a node. -/
def ofNode : Node → Cell
  | .leaf v => { value? := some v }
  | .branch children => { children := ofNodes children }
termination_by structural n => n

/-- Cells that stand for children. -/
def ofNodes : List (String × Node) → List (String × Cell)
  | [] => []
  | (name, n) :: rest => (name, ofNode n) :: ofNodes rest
termination_by structural children => children
end

/-! ### Equality -/

/-- Whether two cells hold equal values, or both hold none. -/
def sameValue : Option Value → Option Value → Bool
  | some v, some w => v.same w
  | none, none => true
  | _, _ => false

mutual
/-- Whether two cells are equal in what they hold and in their children, whose
order has no meaning. -/
def same : Cell → Cell → Bool
  | { value? := v?, children := cs }, { value? := w?, children := ds } =>
    sameValue v? w? && (cs.length == ds.length && sameUnder ds cs)
termination_by structural c => c

/-- Whether each child has an equal one under its name in `others`. -/
def sameUnder (others : List (String × Cell)) : List (String × Cell) → Bool
  | [] => true
  | (name, c) :: rest =>
    (match Entries.get? others name with
      | some d => c.same d
      | none => false) && sameUnder others rest
termination_by structural rest => rest
end

/-! ### Writes to the tree -/

/-- The cell after a write to the tree. -/
def edit (c : Cell) : Node.Edit → Cell
  | .reach place => c.write place (.path [])
  | .assign place v => c.write place (.assign v)
  | .dependsOn place refs => c.write place (.dependsOn refs)
  | .graft place scion => c.overwrite place (ofNode scion)

end Cell
end ResourceTemplate
