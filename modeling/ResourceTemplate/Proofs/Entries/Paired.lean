/-
# Mappings whose entries can be paired

Two mappings whose order has no meaning are compared entry by entry: each
entry of the one is paired with the entry of the same name in the other
(`Paired`). If the names of the one are different, and the other has as many
entries, it is enough that each entry of the one finds its value in the other
(`paired_of_get?`).

Parts that are paired, each with an outcome that is like that of its partner,
come out together: either all parts of both come out, and what comes out is
paired again, or on both sides one does not (`Paired.gather`). So what decides
is not the order in which the parts are gathered.

Key definitions: `Entries.Paired`.
Key theorems: `Entries.paired_of_get?`, `Entries.Paired.gather`.
-/
import Mathlib.Data.List.Forall2
import Mathlib.Data.List.Perm.Subperm
import ResourceTemplate.Proofs.Entries.Collected

namespace ResourceTemplate
namespace Entries

open Outcome

variable {ε α β γ δ : Type} {R : String → α → β → Prop} {es : List (String × α)} {fs : List (String × β)}

/-- Whether the entries of two mappings can be paired such that names are
equal and values are related. -/
def Paired (R : String → α → β → Prop) (es : List (String × α)) (fs : List (String × β)) : Prop :=
  ∃ gs, List.Forall₂ (fun e g => e.1 = g.1 ∧ R e.1 e.2 g.2) es gs ∧ gs.Perm fs

theorem names_eq_of_forall₂ {gs : List (String × β)}
    (h : List.Forall₂ (fun e g => e.1 = g.1 ∧ R e.1 e.2 g.2) es gs) : names es = names gs := by
  induction h with
  | nil => rfl
  | cons h _ ih => rw [names_cons, names_cons, h.1, ih]

theorem Paired.names_perm (h : Paired R es fs) : (names es).Perm (names fs) := by
  obtain ⟨gs, hgs, hperm⟩ := h
  rw [names_eq_of_forall₂ hgs]
  exact hperm.map _

/-- Entries that find their values are paired with what they find. -/
theorem exists_forall₂_of_get? (h : ∀ e ∈ es, ∃ b, get? fs e.1 = some b ∧ R e.1 e.2 b) :
    ∃ gs, List.Forall₂ (fun e g => e.1 = g.1 ∧ R e.1 e.2 g.2) es gs ∧ gs ⊆ fs := by
  induction es with
  | nil => exact ⟨[], .nil, List.nil_subset fs⟩
  | cons e es ih =>
    rw [List.forall_mem_cons] at h
    obtain ⟨⟨b, hb, hR⟩, hrest⟩ := h
    obtain ⟨gs, hgs, hsub⟩ := ih hrest
    exact ⟨(e.1, b) :: gs, .cons ⟨rfl, hR⟩ hgs, List.cons_subset.2 ⟨mem_of_get? hb, hsub⟩⟩

/-- **Where one mapping finds all its values in another of the same size,
their entries can be paired.** -/
theorem paired_of_get? (hnodup : (names es).Nodup) (hlength : es.length = fs.length)
    (h : ∀ e ∈ es, ∃ b, get? fs e.1 = some b ∧ R e.1 e.2 b) : Paired R es fs := by
  obtain ⟨gs, hgs, hsub⟩ := exists_forall₂_of_get? h
  have hgsNodup : gs.Nodup := by
    rw [names_eq_of_forall₂ hgs] at hnodup
    exact hnodup.of_map _
  have hle : fs.length ≤ gs.length := Nat.le_of_eq (hlength.symm.trans hgs.length_eq)
  exact ⟨gs, hgs, (List.subperm_of_subset hgsNodup hsub).perm_of_length_le hle⟩

theorem Paired.cons {name : String} {a : α} {b : β} (hab : R name a b) (h : Paired R es fs) :
    Paired R ((name, a) :: es) ((name, b) :: fs) := by
  obtain ⟨gs, hgs, hperm⟩ := h
  exact ⟨(name, b) :: gs, .cons ⟨rfl, hab⟩ hgs, hperm.cons _⟩

/-- What is paired stays so if entries of certain names are left out. -/
theorem Paired.filter (p : String → Bool) (h : Paired R es fs) :
    Paired (fun name a b => p name ∧ R name a b) (es.filter fun e => p e.1) (fs.filter fun f => p f.1) := by
  obtain ⟨gs, hgs, hperm⟩ := h
  refine ⟨gs.filter fun g => p g.1, ?_, hperm.filter _⟩
  clear hperm
  induction hgs with
  | nil => exact .nil
  | @cons e g es gs heg _ ih =>
    by_cases hp : p e.1
    · have hpg : p g.1 := heg.1 ▸ hp
      simp only [List.filter_cons, hp, hpg, if_true]
      exact .cons ⟨heg.1, hp, heg.2⟩ ih
    · have hpg : ¬p g.1 := heg.1 ▸ hp
      simp only [List.filter_cons, hp, hpg]
      exact ih

/-- What is paired stays so if names are spelled anew and values are replaced. -/
theorem Paired.map {S : String → γ → δ → Prop} (spell : String → String) (f : String → α → γ)
    (g : String → β → δ) (hRS : ∀ name a b, R name a b → S (spell name) (f name a) (g name b))
    (h : Paired R es fs) :
    Paired S (es.map fun e => (spell e.1, f e.1 e.2)) (fs.map fun e => (spell e.1, g e.1 e.2)) := by
  obtain ⟨gs, hgs, hperm⟩ := h
  refine ⟨gs.map fun e => (spell e.1, g e.1 e.2), ?_, hperm.map _⟩
  rw [List.forall₂_map_left_iff, List.forall₂_map_right_iff]
  refine hgs.imp fun e g heg => ?_
  obtain ⟨hname, hR⟩ := heg
  rw [← hname]
  exact ⟨rfl, hRS _ _ _ hR⟩

/-- The values of paired entries are the same up to their order. -/
theorem Paired.values {S : α → β → Prop} (h : Paired (fun _ => S) es fs) :
    ∃ bs, List.Forall₂ S (es.map (·.2)) bs ∧ bs.Perm (fs.map (·.2)) := by
  obtain ⟨gs, hgs, hperm⟩ := h
  refine ⟨gs.map (·.2), ?_, hperm.map _⟩
  rw [List.forall₂_map_left_iff, List.forall₂_map_right_iff]
  exact hgs.imp fun e g heg => heg.2

/-! ### Parts that come out together -/

theorem perm_of_came_perm {bs cs : List (String × β)} (h : (came (ε := ε) bs).Perm (came cs)) : bs.Perm cs := by
  refine (List.map_perm_map_iff ?_).1 h
  intro b c hbc
  obtain ⟨hname, hvalue⟩ := Prod.mk.inj hbc
  exact Prod.ext hname (Except.ok.inj hvalue)

variable {parts : List (String × Except ε α)} {parts' : List (String × Except ε β)}

/-- Either all partners come out or none of the two sides does. -/
theorem made_iff_of_forall₂ (h : List.Forall₂ (fun e g => e.1 = g.1 ∧ Alike (R e.1) e.2 g.2) parts parts') :
    (∀ part ∈ parts, ∃ a, part.2 = .ok a) ↔ ∀ part ∈ parts', ∃ b, part.2 = .ok b := by
  induction h with
  | nil => simp
  | cons h _ ih => rw [List.forall_mem_cons, List.forall_mem_cons, h.2.eq_ok_iff, ih]

theorem forall₂_of_came
    (h : List.Forall₂ (fun e g => e.1 = g.1 ∧ Alike (R e.1) e.2 g.2) (came (ε := ε) es) (came (ε := ε) fs)) :
    List.Forall₂ (fun e f => e.1 = f.1 ∧ R e.1 e.2 f.2) es fs := by
  rw [came, came, List.forall₂_map_left_iff, List.forall₂_map_right_iff] at h
  exact h.imp fun e f hef => ⟨hef.1, hef.2.related rfl rfl⟩

/-- **Whether parts come out does not depend on their order**, nor on more of
each than whether it comes out. -/
theorem Paired.gather (h : Paired (fun name => Alike (R name)) parts parts') :
    Alike (Paired R) (gather parts) (gather parts') := by
  obtain ⟨gs, hgs, hperm⟩ := h
  have hmade : (∀ part ∈ parts, ∃ a, part.2 = .ok a) ↔ ∀ part ∈ parts', ∃ b, part.2 = .ok b :=
    (made_iff_of_forall₂ hgs).trans (forall_congr' fun part => imp_congr_left hperm.mem_iff)
  cases hparts : Entries.gather parts with
  | ok es =>
    obtain rfl := gather_eq_ok_iff.1 hparts
    obtain ⟨fs, rfl⟩ := exists_came (hmade.1 (collects_ofList es).made)
    obtain ⟨bs, rfl⟩ := exists_came ((made_iff_of_forall₂ hgs).1 (collects_ofList es).made)
    rw [gather_eq_ok_iff.2 rfl]
    exact .ok ⟨bs, forall₂_of_came hgs, perm_of_came_perm hperm⟩
  | error e =>
    cases hparts' : Entries.gather parts' with
    | error e' => exact .error e e'
    | ok fs =>
      obtain rfl := gather_eq_ok_iff.1 hparts'
      obtain ⟨es, rfl⟩ := exists_came (hmade.2 (collects_ofList fs).made)
      rw [gather_eq_ok_iff.2 rfl] at hparts
      exact absurd hparts (by simp)

end Entries
end ResourceTemplate
