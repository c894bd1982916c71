/-
# What writing entries one after the other leaves

Of the entries with one name the last gives the value: a mapping made from a
list of entries holds under each name what stands last under it in the list.

One write leaves the other names alone: distinct names stay distinct, and what
holds of each value goes on to hold if it holds of the value written.

Key definitions: `Entries.last?`, `Entries.withName`.
Key theorems: `Entries.get?_ofList`, `Entries.get?_ofList_of_nodup`,
`Entries.forall_mem_alter`, `Entries.nodup_names_alter`.
-/
import Mathlib.Data.List.Nodup
import ResourceTemplate.Entries

namespace ResourceTemplate
namespace Entries

variable {α : Type}

theorem names_cons (e : String × α) (es : List (String × α)) : names (e :: es) = e.1 :: names es := rfl

/-- The value that stands last under a name. -/
def last? : List (String × α) → String → Option α
  | [], _ => none
  | (k, a) :: es, name => (last? es name).or (if k = name then some a else none)

theorem get?_insert (es : Entries α) (k name : String) (a : α) :
    get? (insert es k a) name = if k = name then some a else get? es name := by
  by_cases h : k = name
  · rw [if_pos h, insert, ← h, get?_alter_self]
  · rw [if_neg h, insert, get?_alter_of_ne (Ne.symm h)]

theorem get?_foldl_insert (name : String) : ∀ (es : List (String × α)) (acc : Entries α),
    get? (es.foldl (fun acc e => insert acc e.1 e.2) acc) name = (last? es name).or (get? acc name)
  | [], acc => rfl
  | (k, a) :: es, acc => by
    rw [List.foldl_cons, get?_foldl_insert name es, get?_insert, last?]
    by_cases h : k = name
    · rw [if_pos h, if_pos h, Option.or_assoc]
      rfl
    · rw [if_neg h, if_neg h, Option.or_none]

/-- **The last entry of a name gives its value.** -/
theorem get?_ofList (es : List (String × α)) (name : String) : get? (ofList es) name = last? es name := by
  rw [ofList, get?_foldl_insert, get?, Option.or_none]

theorem last?_eq_none_of_not_mem {es : List (String × α)} {name : String} (h : name ∉ names es) :
    last? es name = none := by
  induction es with
  | nil => rfl
  | cons e es ih =>
    rw [names_cons, List.mem_cons, not_or] at h
    rw [last?, ih h.2, if_neg (Ne.symm h.1), Option.none_or]

/-- An entry whose name no other entry has gives the value of its name. -/
theorem last?_of_nodup {es : List (String × α)} (h : (names es).Nodup) {name : String} {a : α}
    (ha : (name, a) ∈ es) : last? es name = some a := by
  induction es with
  | nil => exact absurd ha List.not_mem_nil
  | cons e es ih =>
    rw [names_cons, List.nodup_cons] at h
    rcases List.mem_cons.1 ha with rfl | ha
    · rw [last?, last?_eq_none_of_not_mem h.1, if_pos rfl, Option.none_or]
    · rw [last?, ih h.2 ha, Option.some_or]

theorem get?_ofList_of_nodup {es : List (String × α)} (h : (names es).Nodup) {name : String} {a : α}
    (ha : (name, a) ∈ es) : get? (ofList es) name = some a := by
  rw [get?_ofList, last?_of_nodup h ha]

theorem mem_of_get? {name : String} {a : α} : ∀ {es : Entries α}, get? es name = some a → (name, a) ∈ es
  | (k, b) :: es, h => by
    rw [get?] at h
    by_cases hk : k = name
    · rw [if_pos hk] at h
      rw [hk, Option.some.inj h]
      exact List.mem_cons_self
    · rw [if_neg hk] at h
      exact List.mem_cons_of_mem _ (mem_of_get? h)

/-! ### Writing at one name -/

theorem get?_eq_none_iff {name : String} : ∀ {es : Entries α}, get? es name = none ↔ name ∉ names es
  | [] => by simp [get?, names]
  | (k, a) :: es => by
    rw [get?, names_cons, List.mem_cons, not_or, ← get?_eq_none_iff]
    by_cases h : k = name
    · simp [h]
    · simp [h, Ne.symm h]

theorem exists_get?_of_mem {name : String} {es : Entries α} (h : name ∈ names es) :
    ∃ a, get? es name = some a :=
  Option.ne_none_iff_exists'.1 (mt get?_eq_none_iff.1 (not_not_intro h))

/-- A new name comes last. -/
theorem alter_of_not_mem {name : String} (f : Option α → α) : ∀ {es : Entries α}, name ∉ names es →
    alter name f es = es ++ [(name, f none)]
  | [], _ => rfl
  | (k, a) :: es, h => by
    rw [names_cons, List.mem_cons, not_or] at h
    rw [alter, if_neg (Ne.symm h.1), alter_of_not_mem f h.2, List.cons_append]

/-- Writing again what is there changes nothing. -/
theorem alter_of_get? {name : String} {f : Option α → α} {a : α} : ∀ {es : Entries α},
    get? es name = some a → f (some a) = a → alter name f es = es
  | (k, b) :: es, h, hf => by
    rw [get?] at h
    rw [alter]
    by_cases hk : k = name
    · rw [if_pos hk] at h
      rw [if_pos hk, Option.some.inj h, hf]
    · rw [if_neg hk] at h
      rw [if_neg hk, alter_of_get? h hf]

theorem alter_eq_self {name : String} {f : Option α → α} {es : Entries α} (h : name ∈ names es)
    (hf : ∀ a, f (some a) = a) : alter name f es = es := by
  obtain ⟨a, ha⟩ := exists_get?_of_mem h
  exact alter_of_get? ha (hf a)

/-- Of two writes at one name the second starts from what the first wrote. -/
theorem alter_alter (name : String) (f g : Option α → α) : ∀ es : Entries α,
    alter name f (alter name g es) = alter name (fun a? => f (some (g a?))) es
  | [] => by rw [alter, alter, alter, if_pos rfl]
  | (k, a) :: es => by
    rw [alter, alter]
    by_cases h : k = name
    · rw [if_pos h, if_pos h, alter, if_pos h]
    · rw [if_neg h, if_neg h, alter, if_neg h, alter_alter name f g es]

/-- What is kept of each value is kept if what is written has it. -/
theorem forall_mem_alter {P : α → Prop} {name : String} {f : Option α → α} :
    ∀ {es : Entries α}, (∀ e ∈ es, P e.2) → (∀ a?, (∀ a ∈ a?, P a) → P (f a?)) →
      ∀ e ∈ alter name f es, P e.2
  | [], _, hf => by
    rw [alter, List.forall_mem_singleton]
    exact hf none fun a ha => absurd ha (Option.not_mem_none a)
  | (k, a) :: es, hes, hf => by
    rw [List.forall_mem_cons] at hes
    rw [alter]
    by_cases hk : k = name
    · rw [if_pos hk, List.forall_mem_cons]
      refine ⟨hf (some a) fun b hb => ?_, hes.2⟩
      rw [← Option.mem_some.1 hb]
      exact hes.1
    · rw [if_neg hk, List.forall_mem_cons]
      exact ⟨hes.1, forall_mem_alter hes.2 hf⟩

/-- Names with one more at the end, unless it is among them. -/
def withName (names : List String) (name : String) : List String :=
  if name ∈ names then names else names ++ [name]

theorem names_alter_eq_withName (name : String) (f : Option α → α) (es : Entries α) :
    names (alter name f es) = withName (names es) name := names_alter name f es

theorem nodup_names_alter {name : String} {f : Option α → α} {es : Entries α} (h : (names es).Nodup) :
    (names (alter name f es)).Nodup := by
  rw [names_alter]
  by_cases hm : name ∈ names es
  · rw [if_pos hm]
    exact h
  · rw [if_neg hm]
    exact List.Nodup.append h (List.nodup_singleton name) (List.disjoint_singleton.2 hm)

end Entries
end ResourceTemplate
