/-
# The names of resources in a document

An item of the resource list starts with the name that its entry gives it.
The fields of the entry follow, and the one that is called `name` is left
out. But fields are told apart by how they are called and written by how they
are spelled: a field that is called otherwise and spelled as `name` is
(`Name` in camel case) is written over the name. So the name of an item comes
from its entry if there is no such field, or the last such field happens to
hold the same text.

Key definitions: `Node.namesake?`.
Key theorems: `Node.get?_resourceDocument_name`, `Node.resource_named_by_entry_iff`.
-/
import ResourceTemplate.Proofs.Node.Fields

namespace ResourceTemplate
namespace Node

/-- The last field of a resource that is spelled as its name is without being
called so. -/
def namesake? (style : KeyStyle) (n : Node) : Option (String × Node) :=
  lastSpelled? style (n.children.filter fun c => c.1 != nameField) (style.spell nameField)

/-- What stands as the name of a resource: its own name, or what its namesake
holds. -/
theorem get?_resourceDocument_name {s : Scope} {name : String} {n : Node} {d : Document}
    (h : n.resourceDocument s name = .ok d) : ∃ item, d = .object item ∧
      match namesake? s.style n with
      | none => Entries.get? item (s.style.spell nameField) = some (.str (s.style.spell name))
      | some c => ∃ v, c.2.inner s = .ok v ∧ Entries.get? item (s.style.spell nameField) = some v := by
  obtain ⟨children, rfl⟩ := exists_of_resourceDocument_eq_ok h
  obtain ⟨fs, hfs, rfl⟩ := resourceDocument_branch_eq_ok.1 h
  refine ⟨_, rfl, ?_⟩
  have hlast := last?_spellAll (s.style.spell nameField) hfs
  rw [Entries.get?_ofList, Entries.last?, if_pos rfl]
  rw [namesake?, Node.children]
  cases hc : lastSpelled? s.style (children.filter fun c => c.1 != nameField) (s.style.spell nameField) with
  | none =>
    rw [hc] at hlast
    rw [hlast, Option.none_or]
  | some c =>
    rw [hc] at hlast
    obtain ⟨v, hv, hlast⟩ := hlast
    exact ⟨v, hv, by rw [hlast, Option.some_or]⟩

theorem name_eq_iff_namesake {s : Scope} {name : String} {n : Node} {d : Document}
    (h : n.resourceDocument s name = .ok d) : ∃ item, d = .object item ∧
      (Entries.get? item (s.style.spell nameField) = some (.str (s.style.spell name)) ↔
        ∀ c ∈ namesake? s.style n, c.2.inner s = .ok (.str (s.style.spell name))) := by
  obtain ⟨item, hd, hname⟩ := get?_resourceDocument_name h
  refine ⟨item, hd, ?_⟩
  cases hc : namesake? s.style n with
  | none =>
    rw [hc] at hname
    exact ⟨fun _ c hc => absurd hc (Option.not_mem_none c), fun _ => hname⟩
  | some c =>
    rw [hc] at hname
    obtain ⟨v, hv, hget⟩ := hname
    rw [hget]
    constructor
    · intro heq c' hc'
      obtain rfl := Option.mem_some.1 hc'
      rw [hv, Option.some.inj heq]
    · intro hall
      rw [hall c rfl] at hv
      rw [Except.ok.inj hv]

/-- **When resources are named by their entries.** If no other child of the
root is spelled like the resource collection, its list has one item for each
entry, in order, and an item is named by its entry exactly if the namesake of
its name, if there is one, holds the same text. -/
theorem resource_named_by_entry_iff (s : Scope) {children entries : List (String × Node)} {d : Document}
    (hmem : (resourcesField, branch entries) ∈ children)
    (honly : ∀ c ∈ children, s.style.spell c.1 = s.style.spell resourcesField →
      c = (resourcesField, branch entries))
    (h : (branch children).document s = .ok d) :
    ∃ fields items, d = .object fields ∧
      Entries.get? fields (s.style.spell resourcesField) = some (.list items) ∧
      items.length = entries.length ∧
      ∀ i (hi : i < entries.length), ∃ item, items[i]? = some (.object item) ∧
        (Entries.get? item (s.style.spell nameField) = some (.str (s.style.spell (entries[i]).1)) ↔
          ∀ c ∈ namesake? s.style (entries[i]).2,
            c.2.inner s = .ok (.str (s.style.spell (entries[i]).1))) := by
  obtain ⟨fields, items, hd, hget, hlist⟩ := get?_document_resources hmem honly h
  obtain ⟨hlength, hitems⟩ := resourceList_eq_ok hlist
  refine ⟨fields, items, hd, hget, hlength, fun i hi => ?_⟩
  obtain ⟨d', hd', hdoc⟩ := hitems i hi
  obtain ⟨item, rfl, hiff⟩ := name_eq_iff_namesake hdoc
  exact ⟨item, hd', hiff⟩

/-- In camel case `Name` is a namesake of `name`: it renames `web`, while the
one of `db` holds the same text and the field `name` is left out. -/
theorem resource_named_by_entry_iff_camel :
    let s : Scope := { style := .standard }
    let entries : List (String × Node) :=
      [("web", branch [("Name", leaf (.str "other"))]),
       ("db", branch [("Name", leaf (.str "db")), ("name", leaf (.str "x"))])]
    let items : List Document := [.object [("name", .str "other")], .object [("name", .str "db")]]
    (branch [(resourcesField, branch entries)]).document s = .ok (.object [("resources", .list items)]) ∧
      ∃ fields items', Document.object [("resources", .list items)] = .object fields ∧
        Entries.get? fields (s.style.spell resourcesField) = some (.list items') ∧
        items'.length = entries.length ∧
        ∀ i (hi : i < entries.length), ∃ item, items'[i]? = some (.object item) ∧
          (Entries.get? item (s.style.spell nameField) = some (.str (s.style.spell (entries[i]).1)) ↔
            ∀ c ∈ namesake? s.style (entries[i]).2,
              c.2.inner s = .ok (.str (s.style.spell (entries[i]).1))) := by
  intro s entries items
  have h : (branch [(resourcesField, branch entries)]).document s =
      .ok (.object [("resources", .list items)]) := rfl
  refine ⟨h, resource_named_by_entry_iff s List.mem_cons_self (fun c hc _ => ?_) h⟩
  exact List.mem_singleton.1 hc

end Node
end ResourceTemplate
