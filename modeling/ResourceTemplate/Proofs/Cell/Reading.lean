/-
# Trees up to the order of siblings

What a tree says, apart from the order of siblings, is told by its paths: which
there are, and which value the cell at each of them holds (`reading`). A value
assigned at a path lies over what was read before: nothing is read below the
path, and the cells on the way to it hold no value (`reading_path_assign`).
Two values lie side by side if neither path goes on from the other, and then
the order does not matter in which they were assigned (`overlay_comm`), even
if both have gone through one leaf and turned it into a branch.

Two cells that calls made read the same if and only if one is the other with
siblings rearranged (`rearranged_iff`).

Key definitions: `Cell.Reading`, `Cell.reading`, `Cell.overlay`,
`Cell.Rearranged`.
Key theorems: `Cell.reading_path_assign`, `Cell.reading_assignAll_comm`,
`Cell.rearranged_iff`.
-/
import ResourceTemplate.Proofs.Cell.Frame

namespace ResourceTemplate
namespace Cell

open Node (Apart)

/-- What is read at each path: nothing, a cell without a value or a value. -/
abbrev Reading := List String → Option (Option Value)

/-- What is read of a cell. -/
def reading (c : Cell) : Reading := fun path => (c.at? path).map (·.value?)

variable {c d : Cell} {name : String} {p q r : List String} {v : Value} {ρ σ : Reading}

theorem reading_nil (c : Cell) : c.reading [] = some c.value? := rfl

theorem reading_cons (c : Cell) (name : String) (r : List String) :
    c.reading (name :: r) = (c.child? name).bind (·.reading r) := by
  rw [reading, at?]
  cases c.child? name <;> rfl

/-- Nothing is below a cell that was just made. -/
theorem reading_getD_fresh (h : r ≠ []) : ((c.child? name).getD fresh).reading r = c.reading (name :: r) := by
  rw [reading_cons]
  cases c.child? name with
  | some d => rfl
  | none =>
    obtain ⟨other, r, rfl⟩ := List.exists_cons_of_ne_nil h
    rfl

theorem reading_child_self (f : Cell → Cell) :
    (c.child name f).reading (name :: r) = (f ((c.child? name).getD fresh)).reading r := by
  rw [reading_cons, child?_child_self, Option.bind_some]

theorem reading_child_of_ne {other : String} (h : other ≠ name) (f : Cell → Cell) :
    (c.child name f).reading (other :: r) = c.reading (other :: r) := by
  rw [reading_cons, reading_cons, child?, child, Entries.get?_alter_of_ne h]
  rfl

/-! ### What is assigned lies over what was there -/

/-- What is read after a value is assigned at a path. -/
def overlay (p : List String) (v : Value) (ρ : Reading) : Reading := fun r =>
  if p <+: r then if r = p then some (some v) else none
  else if r <+: p then some none
  else ρ r

/-- Below a name an overlay is one at the rest of the path. -/
theorem overlay_cons (h : r ≠ [] → σ r = ρ (name :: r)) :
    overlay (name :: p) v ρ (name :: r) = overlay p v σ r := by
  simp only [overlay, List.cons_prefix_cons, true_and, List.cons.injEq]
  by_cases hr : r = []
  · subst hr
    simp
  · rw [h hr]

/-- **An assigned value lies over what was read.** -/
theorem reading_path_assign (p : List String) (v : Value) (c : Cell) :
    (c.path p (assign v)).reading = overlay p v c.reading := by
  funext r
  induction p generalizing c r with
  | nil =>
    rw [overlay, if_pos List.nil_prefix]
    cases r with
    | nil => rfl
    | cons name r => rfl
  | cons name p ih =>
    cases r with
    | nil => rfl
    | cons other r =>
      by_cases h : other = name
      · subst h
        have hbelow : (c.path (other :: p) (assign v)).reading (other :: r) =
            overlay p v ((c.child? other).getD fresh).reading r :=
          (reading_child_self _).trans (ih _ r)
        rw [hbelow, overlay_cons reading_getD_fresh]
      · have haway : (c.path (name :: p) (assign v)).reading (other :: r) = c.reading (other :: r) :=
          reading_child_of_ne h _
        rw [haway, overlay, if_neg (fun hp => h (List.cons_prefix_cons.1 hp).1.symm),
          if_neg (fun hp => h (List.cons_prefix_cons.1 hp).1)]

/-- Values at paths that are apart lie side by side. -/
theorem overlay_comm (h : Apart p q) (v w : Value) (ρ : Reading) :
    overlay p v (overlay q w ρ) = overlay q w (overlay p v ρ) := by
  funext r
  have hboth : ¬ (p <+: r ∧ q <+: r) := fun ⟨hp, hq⟩ =>
    (List.prefix_or_prefix_of_prefix hp hq).elim h.1 h.2
  by_cases hp : p <+: r
  · -- `r` is at or below the first path, so it is away from the second
    have hq : ¬ q <+: r := fun hq => hboth ⟨hp, hq⟩
    have hq' : ¬ r <+: q := fun hq => h.1 (hp.trans hq)
    simp only [overlay, if_pos hp, if_neg hq, if_neg hq']
  · by_cases hq : q <+: r
    · have hp' : ¬ r <+: p := fun hp => h.2 (hq.trans hp)
      simp only [overlay, if_pos hq, if_neg hp, if_neg hp']
    · -- `r` may be on the way to either, and reads as no value in both orders
      simp only [overlay, if_neg hp, if_neg hq]
      by_cases hp' : r <+: p
      · rw [if_pos hp', if_pos hp', ite_self]
      · rw [if_neg hp', if_neg hp']

/-! ### Several values -/

/-- What is read after values are assigned at paths. -/
def overlays (ws : List (List String × Value)) (ρ : Reading) : Reading :=
  ws.foldl (fun ρ w => overlay w.1 w.2 ρ) ρ

theorem reading_assignAll (c : Cell) (ws : List (List String × Value)) :
    (c.assignAll ws).reading = overlays ws c.reading := by
  induction ws generalizing c with
  | nil => rfl
  | cons w ws ih =>
    have hfirst : (c.path w.1 (assign w.2)).reading = overlay w.1 w.2 c.reading :=
      reading_path_assign w.1 w.2 c
    calc (c.assignAll (w :: ws)).reading
        = overlays ws (c.path w.1 (assign w.2)).reading := ih _
      _ = overlays (w :: ws) c.reading := by rw [hfirst]; rfl

theorem overlays_overlay_comm {us : List (List String × Value)} (h : ∀ u ∈ us, Apart p u.1) (v : Value)
    (ρ : Reading) : overlays us (overlay p v ρ) = overlay p v (overlays us ρ) := by
  induction us generalizing ρ with
  | nil => rfl
  | cons u us ih =>
    rw [List.forall_mem_cons] at h
    calc overlays (u :: us) (overlay p v ρ)
        = overlays us (overlay u.1 u.2 (overlay p v ρ)) := rfl
      _ = overlays us (overlay p v (overlay u.1 u.2 ρ)) := by rw [overlay_comm h.1]
      _ = overlay p v (overlays (u :: us) ρ) := ih h.2 _

theorem overlays_comm {ws us : List (List String × Value)} (h : ∀ w ∈ ws, ∀ u ∈ us, Apart w.1 u.1)
    (ρ : Reading) : overlays us (overlays ws ρ) = overlays ws (overlays us ρ) := by
  induction ws generalizing ρ with
  | nil => rfl
  | cons w ws ih =>
    rw [List.forall_mem_cons] at h
    calc overlays us (overlays (w :: ws) ρ)
        = overlays us (overlays ws (overlay w.1 w.2 ρ)) := rfl
      _ = overlays ws (overlays us (overlay w.1 w.2 ρ)) := ih h.2 _
      _ = overlays (w :: ws) (overlays us ρ) := by rw [overlays_overlay_comm h.1]; rfl

/-- **Values at paths that are apart may be assigned in either order.** -/
theorem reading_assignAll_comm {ws us : List (List String × Value)}
    (h : ∀ w ∈ ws, ∀ u ∈ us, Apart w.1 u.1) (c : Cell) :
    ((c.assignAll ws).assignAll us).reading = ((c.assignAll us).assignAll ws).reading := by
  simp only [reading_assignAll]
  exact overlays_comm h c.reading

/-! ### Rearranged siblings -/

/-- Whether one cell is the other with siblings rearranged, at any depth. -/
inductive Rearranged : Cell → Cell → Prop
  | intro {c d : Cell} (value : c.value? = d.value?)
      (names : (Entries.names c.children).Perm (Entries.names d.children))
      (below : ∀ name c' d', c.child? name = some c' → d.child? name = some d' → Rearranged c' d') :
      Rearranged c d

theorem mem_names_iff_reading (c : Cell) (name : String) :
    name ∈ Entries.names c.children ↔ c.reading [name] ≠ none := by
  have hchild : c.reading [name] = none ↔ c.child? name = none := by
    rw [reading_cons]
    cases c.child? name <;> simp [reading_nil]
  rw [Ne, hchild, child?, Entries.get?_eq_none_iff, not_not]

theorem Rearranged.reading_eq (h : c.Rearranged d) : c.reading = d.reading := by
  funext r
  induction h generalizing r with
  | @intro c d value names below ih =>
    cases r with
    | nil => rw [reading_nil, reading_nil, value]
    | cons name r =>
      rw [reading_cons, reading_cons]
      have hmem : name ∈ Entries.names c.children ↔ name ∈ Entries.names d.children := names.mem_iff
      cases hc : c.child? name with
      | none =>
        have hd : d.child? name = none :=
          Entries.get?_eq_none_iff.2 (mt hmem.2 (Entries.get?_eq_none_iff.1 hc))
        rw [hd]
      | some c' =>
        cases hd : d.child? name with
        | none =>
          have hc' : c.child? name = none :=
            Entries.get?_eq_none_iff.2 (mt hmem.1 (Entries.get?_eq_none_iff.1 hd))
          exact absurd (hc'.symm.trans hc) (by simp)
        | some d' => exact ih name c' d' hc hd r

theorem Made.of_child? (h : c.Made) (hd : c.child? name = some d) : d.Made := by
  refine .clone [name] h ?_
  rw [at?, hd, Option.bind_some, at?]

/-- What reads the same has the same names and, under a name, children that
read the same. -/
theorem rearranged_of_children (hc : c.Made) (hd : d.Made) (h : c.reading = d.reading)
    (below : ∀ name c' d', c.child? name = some c' → d.child? name = some d' →
      c'.reading = d'.reading → c'.Rearranged d') : c.Rearranged d := by
  refine ⟨?_, ?_, ?_⟩
  · have hroot : c.reading [] = d.reading [] := congrFun h []
    exact Option.some.inj hroot
  · refine (List.perm_ext_iff_of_nodup hc.nodup_names hd.nodup_names).2 fun name => ?_
    rw [mem_names_iff_reading, mem_names_iff_reading, h]
  · intro name c' d' hc' hd'
    refine below name c' d' hc' hd' (funext fun r => ?_)
    have hr : c.reading (name :: r) = d.reading (name :: r) := congrFun h (name :: r)
    rwa [reading_cons, reading_cons, hc', hd'] at hr

theorem Made.rearranged_of_reading_eq (hc : c.Made) (hd : d.Made) (h : c.reading = d.reading) :
    c.Rearranged d := by
  have hdefinite : c.Definite := hc.definite
  induction hdefinite generalizing d with
  | leaf v =>
    refine rearranged_of_children hc hd h fun name c' d' hc' _ _ => ?_
    exact absurd hc' (by simp [child?, Entries.get?])
  | branch below ih =>
    refine rearranged_of_children hc hd h fun name c' d' hc' hd' hreading => ?_
    exact ih _ (Entries.mem_of_get? hc') (hc.of_child? hc') (hd.of_child? hd') hreading

/-- **What calls made reads the same if and only if siblings are rearranged.** -/
theorem rearranged_iff (hc : c.Made) (hd : d.Made) : c.Rearranged d ↔ c.reading = d.reading := by
  constructor
  · intro h
    exact h.reading_eq
  · intro h
    exact hc.rearranged_of_reading_eq hd h

end Cell
end ResourceTemplate
