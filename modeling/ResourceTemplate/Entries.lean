/-
# Mappings that remember the order of their names

A mapping is the list of its entries in the order in which their names first
came. Writing under a name that is present keeps its place; writing under a
new name puts it last. So of two entries with one name the place of the first
and the value of the last stay.

Key definitions: `Entries`, `Entries.get?`, `Entries.alter`, `Entries.insert`,
`Entries.ofList`, `Entries.least?`.
Key theorems: `Entries.get?_alter_self`, `Entries.get?_alter_of_ne`,
`Entries.names_alter`.
-/

namespace ResourceTemplate

/-- A mapping from names, in order. -/
abbrev Entries (α : Type) := List (String × α)

namespace Entries

variable {α : Type}

/-- The names, in order. -/
def names (es : Entries α) : List String := es.map (·.1)

/-- The value under a name. -/
def get? : Entries α → String → Option α
  | [], _ => none
  | (k, a) :: es, name => if k = name then some a else get? es name

/-- The mapping with `f` applied to what stands under a name, which is
nothing if the name is new. -/
def alter (name : String) (f : Option α → α) : Entries α → Entries α
  | [] => [(name, f none)]
  | (k, a) :: es => if k = name then (k, f (some a)) :: es else (k, a) :: alter name f es

/-- The mapping with a value written under a name. -/
def insert (es : Entries α) (name : String) (a : α) : Entries α :=
  alter name (fun _ => a) es

/-- The mapping that writing the entries one after the other leaves. -/
def ofList (es : List (String × α)) : Entries α :=
  es.foldl (fun acc e => insert acc e.1 e.2) []

/-- The entry whose name is the least. -/
def least? : Entries α → Option (String × α)
  | [] => none
  | e :: es =>
    match least? es with
    | some l => if l.1 < e.1 then some l else some e
    | none => some e

theorem get?_alter_self (name : String) (f : Option α → α) : ∀ es : Entries α,
    get? (alter name f es) name = some (f (get? es name))
  | [] => by simp [alter, get?]
  | (k, a) :: es => by
    by_cases h : k = name
    · simp [alter, get?, h]
    · simp [alter, get?, h, get?_alter_self name f es]

theorem get?_alter_of_ne {name other : String} (h : other ≠ name) (f : Option α → α) :
    ∀ es : Entries α, get? (alter name f es) other = get? es other
  | [] => by simp [alter, get?, Ne.symm h]
  | (k, a) :: es => by
    by_cases hk : k = name
    · subst hk; simp [alter, get?, Ne.symm h]
    · by_cases ho : k = other
      · subst ho; simp [alter, get?, hk]
      · simp [alter, get?, hk, ho, get?_alter_of_ne h f es]

/-- A write keeps the names and their order, and puts a new name last. -/
theorem names_alter (name : String) (f : Option α → α) : ∀ es : Entries α,
    names (alter name f es) = if name ∈ names es then names es else names es ++ [name]
  | [] => by simp [alter, names]
  | (k, a) :: es => by
    have ih := names_alter name f es
    simp only [names] at ih ⊢
    by_cases h : k = name
    · simp [alter, h]
    · simp only [alter, h, if_false, List.map_cons, ih, List.mem_cons, Ne.symm h, false_or]
      by_cases hm : name ∈ es.map (·.1) <;> simp [hm]

end Entries
end ResourceTemplate
