/-
# A write changes its own path only

Following a path drops the value of every cell that it passes and may make new
ones, so a write works on all the levels of its path. Still it leaves alone
whatever is not on the path or below its end, also where a leaf on the way
became a branch. On the way itself each cell is a branch afterwards and keeps
its children in order; the one child that may be new comes last.

A path can be followed in parts: whatever is done at the end of the whole is
done at the end of the second part, from the cell at the end of the first. The
cell that a write finds at the end of its path is the one that was there, or a
fresh one (`at?_path_self`), and so all that is said about the way is said
about the part of the path that is still ahead. In a definite cell, what has a
child holds no value; so to follow a path that is there changes nothing
(`Definite.path_of_at?`).

Key theorems: `Cell.at?_path_self`, `Cell.Definite.at?_write_of_apart`,
`Cell.names_path_prefix`, `Cell.Definite.path_of_at?`,
`Cell.write_changes_its_path_only`.
-/
import ResourceTemplate.Proofs.Cell

namespace ResourceTemplate
namespace Cell

open Node (Apart)

variable {c d : Cell} {p q r : List String} {name : String}

/-! ### At the end of a path -/

/-- Nothing is below a cell that was just made. -/
theorem getD_at?_fresh (p : List String) : (fresh.at? p).getD fresh = fresh := by
  cases p <;> rfl

theorem child?_child_self (name : String) (f : Cell → Cell) (c : Cell) :
    (c.child name f).child? name = some (f ((c.child? name).getD fresh)) := by
  rw [child?, child, Entries.get?_alter_self]
  rfl

/-- Following a path leads to the cell that is there, or to a fresh one. -/
theorem at?_path_self (p : List String) (f : Cell → Cell) (c : Cell) :
    (c.path p f).at? p = some (f ((c.at? p).getD fresh)) := by
  induction p generalizing c with
  | nil => rfl
  | cons name p ih =>
    have hchild : (c.path (name :: p) f).child? name = some (((c.child? name).getD fresh).path p f) :=
      child?_child_self name (path p f) c
    rw [at?, at?, hchild, Option.bind_some, ih]
    cases c.child? name with
    | none => rw [Option.getD_none, getD_at?_fresh, Option.bind_none, Option.getD_none]
    | some d => rw [Option.getD_some, Option.bind_some]

/-! ### On the way -/

/-- Each cell on the way is a branch afterwards. Its children keep their order,
and the next one on the way comes last if it is new. -/
theorem names_path_prefix (q : List String) (name : String) (r : List String) (f : Cell → Cell) (c : Cell) :
    let before := Entries.names ((c.at? q).getD fresh).children
    ∃ d, (c.path (q ++ name :: r) f).at? q = some d ∧ d.isBranch ∧
      Entries.names d.children = if name ∈ before then before else before ++ [name] := by
  intro before
  refine ⟨((c.at? q).getD fresh).child name (path r f), ?_, rfl, Entries.names_alter _ _ _⟩
  rw [path_append, at?_path_self]
  rfl

/-- The names of the children at a path, in order; where there is no cell there
are none. -/
def namesAt (c : Cell) (p : List String) : List String := Entries.names ((c.at? p).getD fresh).children

theorem namesAt_path_prefix (q : List String) (name : String) (r : List String) (f : Cell → Cell) (c : Cell) :
    (c.path (q ++ name :: r) f).namesAt q = Entries.withName (c.namesAt q) name := by
  obtain ⟨d, hd, -, hnames⟩ := names_path_prefix q name r f c
  rw [namesAt, hd, Option.getD_some, hnames]
  rfl

/-! ### Away from the path -/

/-- Cells that have the same nodes at two paths have the same cells there. -/
theorem Definite.at?_eq_of_node (hc : c.Definite) (hd : d.Definite) (h : c.node.at? p = d.node.at? q) :
    c.at? p = d.at? q := by
  rw [hc.at?_node, hd.at?_node] at h
  cases hx : c.at? p with
  | none =>
    rw [hx] at h
    exact (Option.map_eq_none_iff.1 h.symm).symm
  | some x =>
    rw [hx] at h
    obtain ⟨y, hy, hxy⟩ := Option.map_eq_some_iff.1 h.symm
    rw [hy, (hd.at? hy).node_inj (hc.at? hx) hxy]

/-- Away from the path of a write the cells are what they were. -/
theorem Definite.at?_write_of_apart (h : c.Definite) (v : Value) (hpq : Apart p q) :
    (c.write p (.assign v)).at? q = c.at? q := by
  have hwrite : (c.write p (.assign v)).Definite := h.path (fun _ _ => .leaf v) p
  refine hwrite.at?_eq_of_node h ?_
  rw [h.node_write, Call.edit, Node.edit, Node.assign, Node.at?_update_of_apart hpq]

/-- Of several values that are assigned none is below or above a path that is
away from them all. -/
theorem Definite.at?_assignAll_of_apart {ws : List (List String × Value)} (h : c.Definite)
    (hws : ∀ w ∈ ws, Apart w.1 q) : (c.assignAll ws).at? q = c.at? q := by
  induction ws generalizing c with
  | nil => rfl
  | cons w ws ih =>
    rw [List.forall_mem_cons] at hws
    have hfirst : (c.write w.1 (.assign w.2)).at? q = c.at? q := h.at?_write_of_apart w.2 hws.1
    have hwrite : (c.write w.1 (.assign w.2)).Definite := h.path (fun _ _ => .leaf w.2) w.1
    exact (ih hwrite hws.2).trans hfirst

/-- Values at paths that are away from each other are all read where they were
assigned. -/
theorem Definite.at?_assignAll_of_mem {ws : List (List String × Value)} (h : c.Definite)
    (hws : ws.Pairwise fun u w => Apart u.1 w.1) {w : List String × Value} (hw : w ∈ ws) :
    (c.assignAll ws).at? w.1 = some { value? := some w.2, children := [] } := by
  induction ws generalizing c with
  | nil => exact absurd hw List.not_mem_nil
  | cons u ws ih =>
    rw [List.pairwise_cons] at hws
    have hwrite : (c.write u.1 (.assign u.2)).Definite := h.path (fun _ _ => .leaf u.2) u.1
    rcases List.mem_cons.1 hw with rfl | hw
    · -- what is assigned later is away from the path
      have hlater : ((c.write w.1 (.assign w.2)).assignAll ws).at? w.1 = (c.write w.1 (.assign w.2)).at? w.1 :=
        hwrite.at?_assignAll_of_apart fun u hu => (hws.1 u hu).symm
      exact hlater.trans (at?_path_self w.1 (assign w.2) c)
    · exact ih hwrite hws.2 hw

/-! ### Following a path that is there -/

/-- What has a child holds no value. -/
theorem Definite.eq_of_child? (h : c.Definite) (hd : c.child? name = some d) :
    c = { children := c.children } := by
  cases h with
  | leaf v => exact absurd hd (by simp [child?, Entries.get?])
  | branch below => rfl

theorem Definite.path_of_at? (h : c.Definite) (hd : c.at? p = some d) : c.path p id = c := by
  induction p generalizing c with
  | nil => rfl
  | cons name p ih =>
    obtain ⟨b, hb, hd⟩ := Option.bind_eq_some_iff.1 hd
    have hbelow : b.path p id = b := ih (h.of_mem_children _ (Entries.mem_of_get? hb)) hd
    have hchildren : Entries.alter name (fun d? => Cell.path p id (d?.getD fresh)) c.children = c.children :=
      Entries.alter_of_get? hb hbelow
    calc c.path (name :: p) id
        = { children := c.children } := congrArg (Cell.mk none) hchildren
      _ = c := (h.eq_of_child? hb).symm

/-- **A write changes its own path only.** Let a path be followed in a cell that
calls made, and a value assigned at its end. There the path reads as the value
and has no children. Every cell on the way is a branch; its children are those
it had before, in their order, and the next one on the way is added last if it
is new. At every path that is away from this one the same cell is read as
before, or none as before.

Following a path leads to the cell that is there, else to a fresh one; whatever
is done to it, the tree is the same if the path is followed in two parts, one
after the other. Following a path that is there changes nothing. -/
theorem write_changes_its_path_only (h : c.Made) (p : List String) (v : Value) :
    let after := c.write p (.assign v)
    after.at? p = some { value? := some v, children := [] } ∧
    (∀ q name r, p = q ++ name :: r →
      let before := Entries.names ((c.at? q).getD fresh).children
      ∃ d, after.at? q = some d ∧ d.isBranch ∧
        Entries.names d.children = if name ∈ before then before else before ++ [name]) ∧
    (∀ q, Apart p q → after.at? q = c.at? q) ∧
    (∀ f, (c.path p f).at? p = some (f ((c.at? p).getD fresh)) ∧
      ∀ q, c.path (p ++ q) f = (c.path p id).path p (path q f)) ∧
    ∀ d, c.at? p = some d → c.path p id = c := by
  intro after
  refine ⟨?_, ?_, ?_, ?_, ?_⟩
  · exact at?_path_self p (assign v) c
  · rintro q name r rfl
    exact names_path_prefix q name r (assign v) c
  · intro q hpq
    exact h.definite.at?_write_of_apart v hpq
  · intro f
    refine ⟨at?_path_self p f c, fun q => ?_⟩
    rw [path_append, path_path]
    rfl
  · intro d hd
    exact h.definite.path_of_at? hd

/-- Below the leaf `tags` a value is assigned at a new path: `tags` becomes a
branch and stays where it is, and its sibling is what it was. -/
theorem write_changes_its_path_only_tags :
    let c := (fresh.write ["tags"] (.assign (.str "old"))).write ["sku"] (.assign (.str "basic"))
    let after := c.write ["tags", "owner"] (.assign (.str "ops"))
    c.Made ∧ after.at? ["tags", "owner"] = some { value? := some (.str "ops"), children := [] } ∧
    (∃ d, after.at? [] = some d ∧ d.isBranch ∧ Entries.names d.children = ["tags", "sku"]) ∧
    (∃ d, after.at? ["tags"] = some d ∧ d.isBranch ∧ Entries.names d.children = ["owner"]) ∧
    after.at? ["sku"] = c.at? ["sku"] ∧ after.at? ["tags", "team"] = none := by
  intro c after
  have hc : c.Made := .write ["sku"] (.assign (.str "basic")) (.write ["tags"] (.assign (.str "old")) .fresh)
  obtain ⟨hself, hway, haway, -, -⟩ := write_changes_its_path_only hc ["tags", "owner"] (.str "ops")
  exact ⟨hc, hself, hway [] "tags" ["owner"] rfl, hway ["tags"] "owner" [] rfl, haway ["sku"] (by decide),
    haway ["tags", "team"] (by decide)⟩

end Cell
end ResourceTemplate
