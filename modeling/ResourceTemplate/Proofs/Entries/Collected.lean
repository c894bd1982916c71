/-
# Parts collected into a mapping

A mapping is often made from parts whose values are still to come out: each
has a name and an outcome, and the first outcome that is a failure decides
(`gather`). If all come out, they are written one after the other. What that
leaves can be told without following the writes (`Collects`): the names are
those of the parts in order of their first occurrence, and a name has the
value of the last part of that name. Nothing else is left by it, so the rule
says exactly which mapping it is (`collects_iff`). Where the parts have
different names, the mapping is the parts themselves
(`collects_iff_eq_came`).

Key definitions: `Entries.gather`, `Entries.came`, `Entries.Collects`.
Key theorems: `Entries.gather_eq_ok_iff`, `Entries.names_ofList`,
`Entries.collects_iff`, `Entries.collects_iff_eq_came`.
-/
import Mathlib.Data.List.Induction
import ResourceTemplate.Proofs.Entries
import ResourceTemplate.Proofs.Outcome

namespace ResourceTemplate
namespace Entries

open Outcome

variable {ε α : Type}

/-- The entries of the parts if each came out, else the first failure. -/
def gather : List (String × Except ε α) → Except ε (List (String × α))
  | [] => return []
  | (key, x) :: rest => do
    let a ← x
    let es ← gather rest
    return (key, a) :: es

/-- Entries as parts that came out. -/
def came (es : List (String × α)) : List (String × Except ε α) := es.map fun e => (e.1, .ok e.2)

/-- Whether a mapping is what parts are collected into: all came out, the
names are in order of their first occurrence, and the last part of a name
gives its value. -/
structure Collects (parts : List (String × Except ε α)) (out : Entries α) : Prop where
  made : ∀ part ∈ parts, ∃ a, part.2 = .ok a
  names : names out = (Entries.names parts).eraseDups
  value : ∀ key, last? parts key = (get? out key).map .ok

variable {parts : List (String × Except ε α)} {es out out' : List (String × α)}

/-! ### Parts that come out -/

theorem gather_eq_ok_iff : gather parts = .ok es ↔ parts = came es := by
  induction parts generalizing es with
  | nil =>
    rw [gather, return_eq_ok]
    cases es <;> simp [came]
  | cons part rest ih =>
    obtain ⟨key, x⟩ := part
    rw [gather, bind_eq_ok]
    constructor
    · rintro ⟨a, rfl, h⟩
      obtain ⟨rs, hrs, h⟩ := bind_eq_ok.1 h
      obtain rfl := return_eq_ok.1 h
      rw [ih.1 hrs]
      rfl
    · intro h
      cases es with
      | nil => exact absurd h (List.cons_ne_nil _ _)
      | cons e rs =>
        obtain ⟨hpart, hrest⟩ := List.cons.inj h
        obtain ⟨rfl, rfl⟩ := Prod.mk.inj hpart
        exact ⟨e.2, rfl, bind_eq_ok.2 ⟨rs, ih.2 hrest, rfl⟩⟩

theorem names_came (es : List (String × α)) : names (came (ε := ε) es) = names es := by
  rw [came, names, names, List.map_map]
  rfl

theorem exists_came (h : ∀ part ∈ parts, ∃ a, part.2 = .ok a) : ∃ es, parts = came es := by
  induction parts with
  | nil => exact ⟨[], rfl⟩
  | cons part rest ih =>
    rw [List.forall_mem_cons] at h
    obtain ⟨⟨a, ha⟩, hrest⟩ := h
    obtain ⟨es, rfl⟩ := ih hrest
    exact ⟨(part.1, a) :: es, by rw [← Prod.eta part, ha]; rfl⟩

theorem last?_came (key : String) (es : List (String × α)) :
    last? (came (ε := ε) es) key = (last? es key).map .ok := by
  induction es with
  | nil => rfl
  | cons e es ih =>
    have hcons : came (ε := ε) (e :: es) = (e.1, .ok e.2) :: came es := rfl
    rw [hcons, last?, last?, ih]
    cases last? es key with
    | some a => rfl
    | none =>
      by_cases h : e.1 = key
      · rw [if_pos h, if_pos h]
        rfl
      · rw [if_neg h, if_neg h]
        rfl

/-! ### Writing them one after the other -/

theorem ofList_append_singleton (es : List (String × α)) (e : String × α) :
    ofList (es ++ [e]) = insert (ofList es) e.1 e.2 := by
  rw [ofList, List.foldl_append]
  rfl

theorem eraseDups_append_singleton (names : List String) (name : String) :
    (names ++ [name]).eraseDups = if name ∈ names then names.eraseDups else names.eraseDups ++ [name] := by
  rw [List.eraseDups_append]
  by_cases h : name ∈ names
  · have hnone : [name].removeAll names = [] := by simp [List.removeAll, h]
    rw [if_pos h, hnone, List.eraseDups_nil, List.append_nil]
  · have hone : [name].removeAll names = [name] := by simp [List.removeAll, h]
    rw [if_neg h, hone]
    rfl

/-- **Names keep the place of their first occurrence.** -/
theorem names_ofList (es : List (String × α)) : names (ofList es) = (names es).eraseDups := by
  induction es using List.reverseRecOn with
  | nil => rfl
  | append_singleton es e ih =>
    have hnames : names (es ++ [e]) = names es ++ [e.1] := List.map_append
    rw [ofList_append_singleton, insert, names_alter, ih, hnames, eraseDups_append_singleton]
    exact if_congr List.mem_eraseDups rfl rfl

theorem nodup_names_ofList (es : List (String × α)) : (names (ofList es)).Nodup := by
  induction es using List.reverseRecOn with
  | nil => exact List.nodup_nil
  | append_singleton es e ih =>
    rw [ofList_append_singleton]
    exact nodup_names_alter ih

theorem ofList_of_nodup {es : List (String × α)} (h : (names es).Nodup) : ofList es = es := by
  induction es using List.reverseRecOn with
  | nil => rfl
  | append_singleton es e ih =>
    have hnames : names (es ++ [e]) = names es ++ [e.1] := List.map_append
    rw [hnames, List.nodup_append] at h
    obtain ⟨hes, -, hapart⟩ := h
    have hnew : e.1 ∉ names (ofList es) := by
      rw [ih hes]
      exact fun hmem => hapart e.1 hmem e.1 List.mem_cons_self rfl
    rw [ofList_append_singleton, insert, alter_of_not_mem _ hnew, ih hes]

theorem eq_of_names_of_get? : ∀ {es fs : Entries α}, names es = names fs → (names es).Nodup →
    (∀ key, get? es key = get? fs key) → es = fs
  | [], [], _, _, _ => rfl
  | [], f :: fs, hnames, _, _ => absurd hnames (by simp [names])
  | e :: es, [], hnames, _, _ => absurd hnames (by simp [names])
  | (k, a) :: es, (l, b) :: fs, hnames, hnodup, hget => by
    rw [names_cons, names_cons] at hnames
    obtain ⟨hk, hrest⟩ := List.cons.inj hnames
    obtain rfl : k = l := hk
    rw [names_cons, List.nodup_cons] at hnodup
    obtain ⟨hnew, hnodup⟩ := hnodup
    have hfirst := hget k
    rw [get?, get?, if_pos rfl, if_pos rfl] at hfirst
    obtain rfl := Option.some.inj hfirst
    have htail : es = fs := by
      refine eq_of_names_of_get? hrest hnodup fun key => ?_
      by_cases h : k = key
      · subst h
        rw [get?_eq_none_iff.2 hnew, get?_eq_none_iff.2 (hrest ▸ hnew)]
      · have hother := hget key
        rwa [get?, get?, if_neg h, if_neg h] at hother
    rw [htail]

/-! ### The rule -/

theorem collects_ofList (es : List (String × α)) : Collects (came (ε := ε) es) (ofList es) where
  made := by
    intro part hpart
    obtain ⟨e, -, rfl⟩ := List.mem_map.1 hpart
    exact ⟨e.2, rfl⟩
  names := by rw [names_came, names_ofList]
  value := by
    intro key
    rw [last?_came, get?_ofList]

theorem Collects.nodup_names (h : Collects parts out) : (Entries.names out).Nodup := by
  obtain ⟨es, rfl⟩ := exists_came h.made
  rw [h.names, names_came, ← names_ofList]
  exact nodup_names_ofList es

/-- Parts are collected into one mapping only. -/
theorem Collects.unique (h : Collects parts out) (h' : Collects parts out') : out = out' := by
  refine eq_of_names_of_get? (by rw [h.names, h'.names]) h.nodup_names fun key => ?_
  have hvalue : (get? out key).map (Except.ok (ε := ε)) = (get? out' key).map .ok := by
    rw [← h.value, ← h'.value]
  exact Option.map_injective (fun _ _ => Except.ok.inj) hvalue

/-- **Gathering parts and writing them one after the other collects them**, and
nothing else does. -/
theorem collects_iff : (∃ es, gather parts = .ok es ∧ out = ofList es) ↔ Collects parts out := by
  constructor
  · rintro ⟨es, hes, rfl⟩
    rw [gather_eq_ok_iff.1 hes]
    exact collects_ofList es
  · intro h
    obtain ⟨es, rfl⟩ := exists_came h.made
    exact ⟨es, gather_eq_ok_iff.2 rfl, h.unique (collects_ofList es)⟩

/-- **Parts of different names are kept as they are**, each in its place. -/
theorem collects_iff_eq_came (hnodup : (names parts).Nodup) : Collects parts out ↔ parts = came out := by
  constructor
  · intro h
    obtain ⟨es, rfl⟩ := exists_came h.made
    rw [names_came] at hnodup
    have hout : out = ofList es := h.unique (collects_ofList es)
    rw [hout, ofList_of_nodup hnodup]
  · rintro rfl
    rw [names_came] at hnodup
    have h : Collects (came (ε := ε) out) (ofList out) := collects_ofList out
    rwa [ofList_of_nodup hnodup] at h

end Entries
end ResourceTemplate
