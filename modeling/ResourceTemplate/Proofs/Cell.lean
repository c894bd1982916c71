/-
# Cells stand for nodes

A cell could hold a value and children at once, and then say two things about
its node. The calls rule this out: asking for a child drops the value on every
level of the way, and assigning a value drops the children. So a cell that
calls made is definite, at every depth, and the names of its children are
different (`Made`). Such cells are just another way to write nodes: each
stands for one node, each node with different names is stood for by exactly
one of them, and whether one reads or writes the cell or its node makes no
difference (`made_cells_are_nodes`).

A write is followed from the top: what it does to a child is, by induction on
the path, what the update does to the child's node. This needs the cell to be
definite, for a leaf with children left over would become a branch that has
them.

Key definitions: `Cell.Definite`, `Cell.assignAll`, `Cell.Made`, `Cell.Call.edit`.
Key theorems: `Cell.node_path`, `Cell.node_write`, `Cell.ofNode_node`,
`Cell.made_iff`, `Cell.made_cells_are_nodes`.
-/
import Mathlib.Data.List.Induction
import ResourceTemplate.Cell
import ResourceTemplate.Proofs.Entries
import ResourceTemplate.Proofs.Node.Distinct
import ResourceTemplate.Proofs.Node.Frame

namespace ResourceTemplate

namespace Node

/-- A node after its child of a name is asked for: a leaf becomes a branch with
this one child, a child that is there stays where it is, and a new one comes
last. -/
def withChild (name : String) : Node → Node
  | .leaf _ => .branch [(name, .empty)]
  | .branch children =>
    if name ∈ Entries.names children then .branch children else .branch (children ++ [(name, .empty)])

theorem update_id_singleton (name : String) (n : Node) : update id [name] n = n.withChild name := by
  cases n with
  | leaf v => rfl
  | branch children =>
    rw [update, withChild, Node.children]
    by_cases h : name ∈ Entries.names children
    · rw [if_pos h, Entries.alter_eq_self h fun _ => rfl]
    · rw [if_neg h, Entries.alter_of_not_mem _ h]
      rfl

end Node

namespace Cell

/-! ### Definite cells -/

/-- At every depth the cell holds a value or children, not both. -/
inductive Definite : Cell → Prop
  | leaf (v : Value) : Definite { value? := some v }
  | branch {children : List (String × Cell)} (below : ∀ e ∈ children, Definite e.2) :
      Definite { children }

variable {c d : Cell} {v : Value}

theorem definite_fresh : fresh.Definite := .branch fun _ he => absurd he List.not_mem_nil

theorem Definite.children_eq_nil (h : c.Definite) (hv : c.value? = some v) : c.children = [] := by
  cases h with
  | leaf w => rfl
  | branch below => exact absurd hv (by simp)

theorem Definite.of_mem_children (h : c.Definite) : ∀ e ∈ c.children, e.2.Definite := by
  cases h with
  | leaf w => exact fun e he => absurd he List.not_mem_nil
  | branch below => exact below

theorem Definite.at? {place : List String} (h : c.Definite) (hd : c.at? place = some d) : d.Definite := by
  induction place generalizing c with
  | nil =>
    obtain rfl := Option.some.inj hd
    exact h
  | cons name place ih =>
    obtain ⟨b, hb, hd⟩ := Option.bind_eq_some_iff.1 hd
    exact ih (h.of_mem_children _ (Entries.mem_of_get? hb)) hd

/-- Asking for a child leaves no value, and definite children. -/
theorem Definite.child {f : Cell → Cell} (hf : ∀ d : Cell, d.Definite → (f d).Definite) (name : String)
    (h : c.Definite) : (c.child name f).Definite := by
  refine .branch (Entries.forall_mem_alter (P := Definite) h.of_mem_children fun d? hd => hf _ ?_)
  cases d? with
  | none => exact definite_fresh
  | some d => exact hd d rfl

theorem Definite.path {f : Cell → Cell} (hf : ∀ d : Cell, d.Definite → (f d).Definite)
    (place : List String) (h : c.Definite) : (c.path place f).Definite := by
  induction place generalizing c with
  | nil => exact hf c h
  | cons name place ih => exact h.child (fun d hd => ih hd) name

theorem Call.definite_apply (call : Call) (h : c.Definite) : (call.apply c).Definite := by
  cases call with
  | child name => exact h.child (fun _ hd => hd) name
  | path names => exact h.path (fun _ hd => hd) names
  | set name v => exact h.child (fun _ _ => .leaf v) name
  | assign v => exact .leaf v
  | dependsOn refs => exact h.child (fun _ _ => .leaf _) _

/-! ### The node of a cell -/

theorem nodes_eq_map : ∀ children : List (String × Cell),
    nodes children = children.map fun e => (e.1, e.2.node)
  | [] => rfl
  | (name, c) :: rest => by rw [nodes, nodes_eq_map rest, List.map_cons]

theorem names_nodes (children : List (String × Cell)) :
    Entries.names (nodes children) = Entries.names children := by
  rw [nodes_eq_map, Entries.names, Entries.names, List.map_map]
  rfl

theorem get?_nodes (name : String) : ∀ children : List (String × Cell),
    Entries.get? (nodes children) name = (Entries.get? children name).map node
  | [] => rfl
  | (k, c) :: rest => by
    rw [nodes, Entries.get?, Entries.get?, get?_nodes name rest]
    by_cases h : k = name
    · rw [if_pos h, if_pos h, Option.map_some]
    · rw [if_neg h, if_neg h]

theorem value?_node (c : Cell) : c.node.value? = c.value? := by
  cases c with
  | mk value? children => cases value? <;> rfl

theorem Definite.children_node (h : c.Definite) : c.node.children = nodes c.children := by
  cases h with
  | leaf v => rfl
  | branch below => rfl

theorem Definite.child?_node (h : c.Definite) (name : String) :
    c.node.child? name = (c.child? name).map node := by
  rw [Node.child?, h.children_node, get?_nodes, child?]

theorem Definite.at?_node (h : c.Definite) (place : List String) :
    c.node.at? place = (c.at? place).map node := by
  induction place generalizing c with
  | nil => rfl
  | cons name place ih =>
    rw [Node.at?, Cell.at?, h.child?_node]
    cases hd : c.child? name with
    | none => rfl
    | some d => exact ih (h.of_mem_children _ (Entries.mem_of_get? hd))

/-- Altering a child alters its node. -/
theorem nodes_alter {name : String} {f : Option Cell → Cell} {g : Option Node → Node} :
    ∀ {children : List (String × Cell)}, (f none).node = g none →
      (∀ e ∈ children, (f (some e.2)).node = g (some e.2.node)) →
      nodes (Entries.alter name f children) = Entries.alter name g (nodes children)
  | [], hnew, _ => by rw [Entries.alter, nodes, nodes, nodes, Entries.alter, hnew]
  | (k, c) :: rest, hnew, hold => by
    rw [List.forall_mem_cons] at hold
    rw [nodes, Entries.alter, Entries.alter]
    by_cases h : k = name
    · rw [if_pos h, if_pos h, nodes, hold.1]
    · rw [if_neg h, if_neg h, nodes, nodes_alter hnew hold.2]

/-- **A write to a cell is the update of its node.** -/
theorem node_path {f : Cell → Cell} {g : Node → Node} (hfg : ∀ d : Cell, d.Definite → (f d).node = g d.node)
    (place : List String) (h : c.Definite) : (c.path place f).node = Node.update g place c.node := by
  induction place generalizing c with
  | nil => exact hfg c h
  | cons name place ih =>
    have hnodes : nodes (Entries.alter name (fun d? => path place f (d?.getD fresh)) c.children) =
        Entries.alter name (fun n? => Node.update g place (n?.getD .empty)) (nodes c.children) :=
      nodes_alter (ih definite_fresh) fun e he => ih (h.of_mem_children e he)
    rw [Node.update, h.children_node, ← hnodes]
    rfl

/-- The write to the tree that a call on the cell at a path is. -/
def Call.edit (place : List String) : Call → Node.Edit
  | .child name => .reach (place ++ [name])
  | .path names => .reach (place ++ names)
  | .set name v => .assign (place ++ [name]) v
  | .assign v => .assign place v
  | .dependsOn refs => .dependsOn place refs

theorem Definite.node_child {f : Cell → Cell} {g : Node → Node} (h : c.Definite) (name : String)
    (hfg : ∀ d : Cell, d.Definite → (f d).node = g d.node) :
    (c.child name f).node = Node.update g [name] c.node :=
  node_path hfg [name] h

theorem Definite.node_write (h : c.Definite) (place : List String) (call : Call) :
    (c.write place call).node = c.node.edit (call.edit place) := by
  cases call with
  | child name =>
    rw [Call.edit, Node.edit, Node.reach, Node.update_append]
    exact node_path (fun d hd => hd.node_child name fun _ _ => rfl) place h
  | path names =>
    rw [Call.edit, Node.edit, Node.reach, Node.update_append]
    exact node_path (fun d hd => node_path (fun _ _ => rfl) names hd) place h
  | set name v =>
    rw [Call.edit, Node.edit, Node.assign, Node.update_append]
    exact node_path (fun d hd => hd.node_child name fun _ _ => rfl) place h
  | assign v => exact node_path (fun _ _ => rfl) place h
  | dependsOn refs =>
    rw [Call.edit, Node.edit, Node.dependsOn, Node.set, Node.assign, Node.update_append]
    exact node_path (fun d hd => hd.node_child _ fun _ _ => rfl) place h

theorem Definite.node_overwrite (h : c.Definite) (place : List String) (d : Cell) :
    (c.overwrite place d).node = c.node.graft place d.node :=
  node_path (fun _ _ => rfl) place h

theorem path_append (p q : List String) (f : Cell → Cell) (c : Cell) :
    c.path (p ++ q) f = c.path p (path q f) := by
  rw [path, List.foldr_append]
  rfl

/-- Of two writes at one path the second starts from what the first made. -/
theorem path_path (p : List String) (f g : Cell → Cell) (c : Cell) :
    (c.path p g).path p f = c.path p fun d => f (g d) := by
  induction p generalizing c with
  | nil => rfl
  | cons name p ih =>
    have hchildren : Entries.alter name (fun d? => path p f (d?.getD fresh))
        (Entries.alter name (fun d? => path p g (d?.getD fresh)) c.children) =
        Entries.alter name (fun d? => path p (fun d => f (g d)) (d?.getD fresh)) c.children := by
      rw [Entries.alter_alter]
      simp only [Option.getD_some, ih]
    exact congrArg (Cell.mk none) hchildren

/-- The cell after values are assigned at paths, one after the other. -/
def assignAll (c : Cell) (ws : List (List String × Value)) : Cell :=
  ws.foldl (fun c w => c.path w.1 (assign w.2)) c

theorem Definite.assignAll (h : c.Definite) (ws : List (List String × Value)) : (c.assignAll ws).Definite := by
  induction ws generalizing c with
  | nil => exact h
  | cons w ws ih => exact ih (h.path (fun _ _ => .leaf w.2) w.1)

theorem Definite.node_assignAll (h : c.Definite) (ws : List (List String × Value)) :
    (c.assignAll ws).node = ws.foldl (fun n w => n.assign w.1 w.2) c.node := by
  induction ws generalizing c with
  | nil => rfl
  | cons w ws ih =>
    have hfirst : (c.path w.1 (assign w.2)).node = c.node.assign w.1 w.2 := h.node_write w.1 (.assign w.2)
    rw [List.foldl_cons, ← hfirst]
    exact ih (h.path (fun _ _ => .leaf w.2) w.1)

/-! ### The cell of a node -/

mutual
theorem node_ofNode : ∀ n : Node, (ofNode n).node = n
  | .leaf _ => rfl
  | .branch children => by rw [ofNode, node, nodes_ofNodes children]
termination_by structural n => n

theorem nodes_ofNodes : ∀ children : List (String × Node), nodes (ofNodes children) = children
  | [] => rfl
  | (name, n) :: rest => by rw [ofNodes, nodes, node_ofNode n, nodes_ofNodes rest]
termination_by structural children => children
end

mutual
theorem definite_ofNode : ∀ n : Node, (ofNode n).Definite
  | .leaf v => .leaf v
  | .branch children => .branch (definite_ofNodes children)
termination_by structural n => n

theorem definite_ofNodes : ∀ children : List (String × Node), ∀ e ∈ ofNodes children, e.2.Definite
  | [] => fun _ he => absurd he List.not_mem_nil
  | (_, n) :: rest => List.forall_mem_cons.2 ⟨definite_ofNode n, definite_ofNodes rest⟩
termination_by structural children => children
end

theorem ofNodes_nodes : ∀ {children : List (String × Cell)},
    (∀ e ∈ children, ofNode e.2.node = e.2) → ofNodes (nodes children) = children
  | [], _ => rfl
  | (name, c) :: rest, h => by
    rw [List.forall_mem_cons] at h
    rw [nodes, ofNodes, h.1, ofNodes_nodes h.2]

/-- A definite cell can be told from its node. -/
theorem ofNode_node (h : c.Definite) : ofNode c.node = c := by
  induction h with
  | leaf v => rfl
  | branch below ih => rw [node, ofNode, ofNodes_nodes ih]

theorem Definite.node_inj (hc : c.Definite) (hd : d.Definite) (h : c.node = d.node) : c = d := by
  rw [← ofNode_node hc, h, ofNode_node hd]

/-! ### Equality -/

mutual
/-- Definite cells are equal if their nodes are. -/
theorem Definite.same_node : ∀ {c d : Cell}, c.Definite → d.Definite → c.node.same d.node = c.same d
  | { value? := some v, children := cs }, { value? := some w, children := ds }, hc, hd => by
    obtain rfl : cs = [] := hc.children_eq_nil rfl
    obtain rfl : ds = [] := hd.children_eq_nil rfl
    exact (Bool.and_true _).symm
  | { value? := some v, children := cs }, { value? := none, children := ds }, _, _ => rfl
  | { value? := none, children := cs }, { value? := some w, children := ds }, _, _ => rfl
  | { value? := none, children := cs }, { value? := none, children := ds }, hc, hd => by
    rw [node, node, Node.same, same, sameUnder_nodes hc.of_mem_children hd.of_mem_children, nodes_eq_map,
      nodes_eq_map, List.length_map, List.length_map]
    rfl
termination_by structural c => c

theorem sameUnder_nodes : ∀ {cs ds : List (String × Cell)}, (∀ e ∈ cs, e.2.Definite) →
    (∀ e ∈ ds, e.2.Definite) → Node.sameUnder (nodes ds) (nodes cs) = sameUnder ds cs
  | [], _, _, _ => rfl
  | (name, c) :: rest, ds, hcs, hds => by
    rw [List.forall_mem_cons] at hcs
    rw [nodes, Node.sameUnder, sameUnder, sameUnder_nodes hcs.2 hds, get?_nodes]
    cases hd : Entries.get? ds name with
    | none => rfl
    | some d =>
      have hsame : c.node.same d.node = c.same d :=
        Definite.same_node hcs.1 (hds _ (Entries.mem_of_get? hd))
      exact congrArg (· && sameUnder ds rest) hsame
termination_by structural cs => cs
end

/-! ### What calls make -/

/-- The cells that calls make from a fresh one: by calls on the cell at any
path, by cloning the cell at any path, and by overwriting one with another. -/
inductive Made : Cell → Prop
  | fresh : Made fresh
  | write {c : Cell} (place : List String) (call : Call) (h : Made c) : Made (c.write place call)
  | clone {c d : Cell} (place : List String) (h : Made c) (hd : c.at? place = some d) : Made d
  | overwrite {c d : Cell} (place : List String) (h : Made c) (hd : Made d) : Made (c.overwrite place d)

theorem Made.definite (h : c.Made) : c.Definite := by
  induction h with
  | fresh => exact definite_fresh
  | write place call _ ih => exact ih.path (fun _ hd => call.definite_apply hd) place
  | clone place _ hd ih => exact ih.at? hd
  | overwrite place _ _ ih ihd => exact ih.path (fun _ _ => ihd) place

theorem distinct_edit_of_call {n : Node} (h : n.Distinct) (place : List String) (call : Call) :
    (n.edit (call.edit place)).Distinct := by
  cases call with
  | child name => exact h.update (fun _ hm => hm) _
  | path names => exact h.update (fun _ hm => hm) _
  | set name v => exact h.update (fun _ _ => .leaf v) _
  | assign v => exact h.update (fun _ _ => .leaf v) _
  | dependsOn refs => exact h.update (fun _ _ => .leaf _) _

theorem Made.distinct (h : c.Made) : c.node.Distinct := by
  induction h with
  | fresh => exact Node.distinct_empty
  | write place call h ih =>
    rw [h.definite.node_write]
    exact distinct_edit_of_call ih place call
  | @clone c d place h hd ih =>
    have hnode : c.node.at? place = some d.node := by
      rw [h.definite.at?_node, hd, Option.map_some]
    exact ih.at? hnode
  | overwrite place h hd ih ihd =>
    rw [h.definite.node_overwrite]
    exact ih.update (fun _ _ => ihd) place

/-- Children of different names are made by overwriting one fresh child after
the other. -/
theorem made_of_children {children : List (String × Cell)} (hnames : (Entries.names children).Nodup)
    (h : ∀ e ∈ children, e.2.Made) : Made { children } := by
  induction children using List.reverseRecOn with
  | nil => exact .fresh
  | append_singleton children e ih =>
    rw [Entries.names, List.map_append, List.nodup_append] at hnames
    rw [List.forall_mem_append, List.forall_mem_singleton] at h
    have hnew : e.1 ∉ Entries.names children := fun hmem =>
      hnames.2.2 e.1 hmem e.1 List.mem_cons_self rfl
    have hlast : overwrite { children } [e.1] e.2 = { children := children ++ [e] } :=
      congrArg (Cell.mk none) (Entries.alter_of_not_mem _ hnew)
    rw [← hlast]
    exact .overwrite [e.1] (ih hnames.1 h.1) h.2

theorem Definite.made (h : c.Definite) (hn : c.node.Distinct) : c.Made := by
  induction h with
  | leaf v => exact .write [] (.assign v) .fresh
  | @branch children below ih =>
    have hchildren : (Node.branch (nodes children)).Distinct := hn
    refine made_of_children ?_ fun e he => ih e he ?_
    · rw [← names_nodes]
      exact hchildren.nodup_names
    · refine hchildren.of_mem_children (e.1, e.2.node) ?_
      rw [Node.children, nodes_eq_map]
      exact List.mem_map.2 ⟨e, he, rfl⟩

/-- Calls make the definite cells whose nodes have different names. -/
theorem made_iff : c.Made ↔ c.Definite ∧ c.node.Distinct := by
  constructor
  · intro h
    exact ⟨h.definite, h.distinct⟩
  · rintro ⟨hc, hn⟩
    exact hc.made hn

theorem made_ofNode {n : Node} (h : n.Distinct) : (ofNode n).Made :=
  made_iff.2 ⟨definite_ofNode n, (node_ofNode n).symm ▸ h⟩

theorem Made.assignAll (h : c.Made) (ws : List (List String × Value)) : (c.assignAll ws).Made := by
  induction ws generalizing c with
  | nil => exact h
  | cons w ws ih => exact ih (.write w.1 (.assign w.2) h)

/-! ### Cells and nodes -/

theorem Made.nodup_names (h : c.Made) : (Entries.names c.children).Nodup := by
  rw [← names_nodes, ← h.definite.children_node]
  exact h.distinct.nodup_names

/-- The tree that a made cell stands for. -/
def tree (c : { c : Cell // c.Made }) : { n : Node // n.Distinct } := ⟨c.1.node, c.2.distinct⟩

theorem tree_bijective : Function.Bijective tree := by
  constructor
  · rintro ⟨c, hc⟩ ⟨d, hd⟩ h
    exact Subtype.ext (hc.definite.node_inj hd.definite (congrArg Subtype.val h))
  · rintro ⟨n, hn⟩
    have hnode : (ofNode n).node = n := node_ofNode n
    exact ⟨⟨ofNode n, made_ofNode hn⟩, Subtype.ext hnode⟩

/-- Whether reading a cell gives what reading a node gives. -/
structure ReadsAs (c : Cell) (n : Node) : Prop where
  isLeaf : c.isLeaf = n.isLeaf
  isBranch : c.isBranch = n.isBranch
  value? : c.value? = n.value?
  child? : ∀ name, (c.child? name).map node = n.child? name
  children : c.children.map (fun e => (e.1, e.2.node)) = n.children

theorem Definite.readsAs (h : c.Definite) : c.ReadsAs c.node where
  isLeaf := by rw [isLeaf, Node.isLeaf, value?_node]
  isBranch := by rw [isBranch, Node.isBranch, value?_node]
  value? := (value?_node c).symm
  child? name := (h.child?_node name).symm
  children := by rw [h.children_node, nodes_eq_map]

/-- Asking for a child gives the node a child of this name, and the child is
what it was before. -/
theorem Definite.at?_write_child (h : c.Definite) (place : List String) (name : String) :
    (c.write place (.child name)).node.at? place =
      some (((c.node.at? place).getD .empty).withChild name) ∧
    (c.write place (.child name)).node.at? (place ++ [name]) =
      some ((c.node.at? (place ++ [name])).getD .empty) := by
  rw [h.node_write, Call.edit, Node.edit, Node.reach]
  constructor
  · rw [Node.update_append, Node.at?_update_self, Node.update_id_singleton]
  · rw [Node.at?_update_self, id]

theorem Definite.at?_write_assign (h : c.Definite) (place : List String) (v : Value) :
    (c.write place (.assign v)).node.at? place = some (.leaf v) := by
  rw [h.node_write, Call.edit, Node.edit, Node.assign, Node.at?_update_self]

/-- **Made cells are nodes.** In a cell that calls made, no cell at any depth
holds both a value and children, or two children of one name. Such cells and
trees of different names correspond one to one, and reading a cell, a call on
the cell at a path and overwriting it give what they give on the tree. There a
call for a child makes the node at the path a branch that has the child, and
assigning a value makes it a leaf, whatever it was. -/
theorem made_cells_are_nodes :
    (∀ c : Cell, c.Made → ∀ place d, c.at? place = some d →
      (d.value?.isSome → d.children = []) ∧ (Entries.names d.children).Nodup) ∧
    Function.Bijective tree ∧
    (∀ c : Cell, c.Made → c.ReadsAs c.node ∧ ∀ place,
      (∀ call, (c.write place call).Made ∧ (c.write place call).node = c.node.edit (call.edit place)) ∧
      (∀ d : Cell, d.Made →
        (c.overwrite place d).Made ∧ (c.overwrite place d).node = c.node.graft place d.node) ∧
      (∀ v, (c.write place (.assign v)).node.at? place = some (.leaf v)) ∧
      ∀ name,
        (c.write place (.child name)).node.at? place =
          some (((c.node.at? place).getD .empty).withChild name) ∧
        (c.write place (.child name)).node.at? (place ++ [name]) =
          some ((c.node.at? (place ++ [name])).getD .empty)) := by
  refine ⟨fun c hc place d hd => ?_, tree_bijective, fun c hc => ⟨hc.definite.readsAs, fun place => ?_⟩⟩
  · have hmade : d.Made := .clone place hc hd
    refine ⟨fun hvalue => ?_, hmade.nodup_names⟩
    obtain ⟨v, hv⟩ := Option.isSome_iff_exists.1 hvalue
    exact hmade.definite.children_eq_nil hv
  · refine ⟨fun call => ?_, fun d hd => ?_, ?_, ?_⟩
    · exact ⟨.write place call hc, hc.definite.node_write place call⟩
    · exact ⟨.overwrite place hc hd, hc.definite.node_overwrite place d⟩
    · exact hc.definite.at?_write_assign place
    · exact hc.definite.at?_write_child place

/-- A cell that is a leaf and then a branch, with a leaf that is cloned. -/
def recloned : Cell :=
  let written := (fresh.write [] (.assign (.str "old"))).write ["tags"] (.set "owner" (.str "ops"))
  written.overwrite ["labels"] (.assign (.str "ops") fresh)

theorem made_recloned : recloned.Made :=
  .overwrite ["labels"] (.write ["tags"] (.set "owner" (.str "ops")) (.write [] (.assign (.str "old")) .fresh))
    (.write [] (.assign (.str "ops")) .fresh)

/-- Asking the cloned leaf for a child leaves the child alone below it. -/
theorem made_cells_are_nodes_recloned :
    recloned.Made ∧
    recloned.node = .branch [("tags", .branch [("owner", .leaf (.str "ops"))]), ("labels", .leaf (.str "ops"))] ∧
    (recloned.write ["labels"] (.child "owner")).node.at? ["labels"] = some (.branch [("owner", .empty)]) := by
  obtain ⟨-, -, hreads⟩ := made_cells_are_nodes
  obtain ⟨-, hwrites⟩ := hreads recloned made_recloned
  obtain ⟨-, -, -, hchild⟩ := hwrites ["labels"]
  exact ⟨made_recloned, rfl, (hchild "owner").1⟩

end Cell
end ResourceTemplate
