/-
# What a write to the tree leaves alone

A write at a path concerns the node there, the nodes on the way to it and
what is below it. A path that neither leads to it nor goes on from it reads
as before (`at?_update_of_apart`), also where the write turned a leaf on its
way into a branch. Asking for a node changes nothing that is there already,
as long as it does not ask for something below a leaf.

Key definitions: `Node.Apart`, `Node.Edit.Spares`.
Key theorems: `Node.at?_update_self`, `Node.at?_update_of_apart`,
`Node.at?_edit_of_spares`.
-/
import ResourceTemplate.Node.Basic

namespace ResourceTemplate
namespace Node

/-- Two paths of which neither goes on from the other. -/
def Apart (p q : List String) : Prop := ¬ p <+: q ∧ ¬ q <+: p

instance (p q : List String) : Decidable (Apart p q) := inferInstanceAs (Decidable (_ ∧ _))

theorem Apart.symm {p q : List String} (h : Apart p q) : Apart q p := ⟨h.2, h.1⟩

theorem apart_cons {name : String} {p q : List String} : Apart (name :: p) (name :: q) ↔ Apart p q := by
  rw [Apart, Apart, List.cons_prefix_cons, List.cons_prefix_cons]
  simp

theorem apart_of_ne {name other : String} (h : name ≠ other) (p q : List String) :
    Apart (name :: p) (other :: q) := by
  constructor
  · intro hpq
    exact h (List.cons_prefix_cons.1 hpq).1
  · intro hqp
    exact h (List.cons_prefix_cons.1 hqp).1.symm

/-- Nothing is below a node that was just made. -/
theorem getD_at?_empty (p : List String) : (empty.at? p).getD empty = empty := by
  cases p <;> rfl

variable {f : Node → Node} {name : String} {path : List String} {n : Node}

theorem child?_update_self :
    (update f (name :: path) n).child? name = some (update f path ((n.child? name).getD empty)) := by
  rw [update, child?, children, Entries.get?_alter_self]
  rfl

theorem child?_update_of_ne {other : String} (h : other ≠ name) :
    (update f (name :: path) n).child? other = n.child? other := by
  rw [update, child?, children, Entries.get?_alter_of_ne h]
  rfl

/-- An update puts at its path what it makes of the node there. -/
theorem at?_update_self (p : List String) (n : Node) :
    (update f p n).at? p = some (f ((n.at? p).getD empty)) := by
  induction p generalizing n with
  | nil => rfl
  | cons name p ih =>
    rw [at?, at?, child?_update_self, Option.bind_some, ih]
    cases n.child? name with
    | none => rw [Option.getD_none, getD_at?_empty, Option.bind_none, Option.getD_none]
    | some c => rw [Option.getD_some, Option.bind_some]

/-- Away from the path of an update the tree reads as before. -/
theorem at?_update_of_apart {p q : List String} (h : Apart p q) (n : Node) :
    (update f p n).at? q = n.at? q := by
  induction p generalizing n q with
  | nil => exact absurd List.nil_prefix h.1
  | cons name p ih =>
    cases q with
    | nil => exact absurd List.nil_prefix h.2
    | cons other q =>
      rw [at?, at?]
      by_cases ho : other = name
      · subst ho
        rw [child?_update_self, Option.bind_some, ih (apart_cons.1 h)]
        cases n.child? other with
        | some c => rw [Option.getD_some, Option.bind_some]
        | none =>
          -- the child is new, and the rest of the path leads on from it
          rw [Option.getD_none, Option.bind_none]
          cases q with
          | nil => exact absurd List.nil_prefix (apart_cons.1 h).2
          | cons => rfl
      · rw [child?_update_of_ne ho]

/-- Asking for a node on the way to another one does not change the other. -/
theorem at?_reach_of_prefix {p q : List String} (hp : p <+: q) {x : Node} (hx : n.at? q = some x) :
    (n.reach p).at? q = some x := by
  obtain ⟨r, rfl⟩ := hp
  rw [at?_append] at hx
  obtain ⟨m, hm, hx⟩ := Option.bind_eq_some_iff.1 hx
  rw [at?_append, reach, at?_update_self, hm, Option.getD_some, Option.bind_some, id, hx]

/-! ### Writes that leave a node alone -/

/-- Whether a write leaves the node at a path what it is, if it is there: it
may ask for what is on the way to the node and the node itself, and is away
from it otherwise. -/
def Edit.Spares (q : List String) : Edit → Prop
  | .reach p => p <+: q ∨ Apart p q
  | .assign p _ => Apart p q
  | .dependsOn p _ => Apart (p ++ ["depends_on"]) q
  | .graft p _ => Apart p q

instance (q : List String) : (e : Edit) → Decidable (e.Spares q)
  | .reach _ => inferInstanceAs (Decidable (_ ∨ _))
  | .assign p _ => inferInstanceAs (Decidable (Apart p q))
  | .dependsOn p _ => inferInstanceAs (Decidable (Apart (p ++ ["depends_on"]) q))
  | .graft p _ => inferInstanceAs (Decidable (Apart p q))

theorem at?_edit_of_spares {e : Edit} {q : List String} (he : e.Spares q) {x : Node}
    (hx : n.at? q = some x) : (n.edit e).at? q = some x := by
  cases e with
  | reach p =>
    rcases he with hp | hp
    · exact at?_reach_of_prefix hp hx
    · rw [edit, reach, at?_update_of_apart hp, hx]
  | assign p v => rw [edit, assign, at?_update_of_apart he, hx]
  | dependsOn p refs => rw [edit, dependsOn, set, assign, at?_update_of_apart he, hx]
  | graft p scion => rw [edit, graft, at?_update_of_apart he, hx]

end Node
end ResourceTemplate
