/-
# Siblings have different names

Children are asked for by their names, so no two children of a node have one
name, at any depth: a write makes a child only under a name that is new, and
all it does to the others is to write below them.

Key definitions: `Node.Distinct`.
Key theorems: `Node.Distinct.update`, `Node.Distinct.at?`.
-/
import ResourceTemplate.Node.Basic
import ResourceTemplate.Proofs.Entries

namespace ResourceTemplate
namespace Node

/-- At every depth the names of the children are different. -/
inductive Distinct : Node → Prop
  | leaf (v : Value) : Distinct (.leaf v)
  | branch {children : List (String × Node)} (names : (Entries.names children).Nodup)
      (below : ∀ e ∈ children, Distinct e.2) : Distinct (.branch children)

theorem distinct_empty : empty.Distinct := .branch List.nodup_nil fun _ he => absurd he List.not_mem_nil

variable {n : Node}

theorem Distinct.nodup_names (h : n.Distinct) : (Entries.names n.children).Nodup := by
  cases h with
  | leaf v => exact List.nodup_nil
  | branch names below => exact names

theorem Distinct.of_mem_children (h : n.Distinct) : ∀ e ∈ n.children, e.2.Distinct := by
  cases h with
  | leaf v => exact fun e he => absurd he List.not_mem_nil
  | branch names below => exact below

theorem Distinct.at? {path : List String} {m : Node} (h : n.Distinct) (hm : n.at? path = some m) :
    m.Distinct := by
  induction path generalizing n with
  | nil =>
    obtain rfl := Option.some.inj hm
    exact h
  | cons name path ih =>
    obtain ⟨c, hc, hm⟩ := Option.bind_eq_some_iff.1 hm
    exact ih (h.of_mem_children _ (Entries.mem_of_get? hc)) hm

/-- A write of a distinct tree keeps a tree distinct. -/
theorem Distinct.update {f : Node → Node} (hf : ∀ m : Node, m.Distinct → (f m).Distinct)
    (path : List String) (h : n.Distinct) : (update f path n).Distinct := by
  induction path generalizing n with
  | nil => exact hf n h
  | cons name path ih =>
    refine .branch (Entries.nodup_names_alter h.nodup_names) ?_
    refine Entries.forall_mem_alter (P := Distinct) h.of_mem_children fun c? hc => ih ?_
    cases c? with
    | none => exact distinct_empty
    | some c => exact hc c rfl

end Node
end ResourceTemplate
