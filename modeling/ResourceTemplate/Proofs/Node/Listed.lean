/-
# The resources that a document lists

A resource stands in the document with the name that its place gives it and
with the type that is written in its branch, if the style tells apart what
has to be told apart: the children of the root, and in each resource its
fields together with the name it gets (`SpelledApart`). Otherwise the name or
the type could be written over, or the whole list.

Key definitions: `Document.Lists`, `Node.SpelledApart`.
Key theorems: `Node.lists_of_typed`.
-/
import Mathlib.Data.List.Nodup
import ResourceTemplate.Proofs.Node.Fields

namespace ResourceTemplate

/-- The field of a resource that holds its provider type. -/
def typeField : String := "type"

/-- Whether a document lists a resource of a name and a provider type. -/
def Document.Lists (d : Document) (style : KeyStyle) (name providerType : String) : Prop :=
  ∃ fields items item, d = .object fields ∧
    Entries.get? fields (style.spell resourcesField) = some (.list items) ∧ .object item ∈ items ∧
    Entries.get? item (style.spell nameField) = some (.str name) ∧
    Entries.get? item (style.spell typeField) = some (.str providerType)

namespace Node

open Outcome

/-- The names that the fields of a resource have in a document. It gets its
name from its place, and a field that is called so is left out. -/
def resourceKeys (style : KeyStyle) (n : Node) : List String :=
  style.spell nameField ::
    (n.children.filter fun c => c.1 != nameField).map fun c => style.spell c.1

/-- Whether a style tells apart the children of the root and the fields of
each resource. -/
structure SpelledApart (style : KeyStyle) (root : Node) : Prop where
  children : (root.children.map fun c => style.spell c.1).Nodup
  fields : ∀ n ∈ root.child? resourcesField, ∀ c ∈ Node.children n, (resourceKeys style c.2).Nodup

theorem spelledApart_iff {style : KeyStyle} {root : Node} : SpelledApart style root ↔
    (root.children.map fun c => style.spell c.1).Nodup ∧
      ∀ n ∈ root.child? resourcesField, ∀ c ∈ n.children, (resourceKeys style c.2).Nodup := by
  constructor
  · intro h
    exact And.intro h.children h.fields
  · intro h
    exact SpelledApart.mk h.1 h.2

instance (style : KeyStyle) (root : Node) : Decidable (SpelledApart style root) :=
  decidable_of_iff _ spelledApart_iff.symm

/-- Only a branch has children. -/
theorem exists_branch_of_child? {n c : Node} {name : String} (h : n.child? name = some c) :
    ∃ children, n = branch children ∧ (name, c) ∈ children := by
  cases n with
  | leaf v => exact absurd h (by simp [child?, children, Entries.get?])
  | branch cs => exact ⟨cs, rfl, Entries.mem_of_get? h⟩

/-- A resource whose branch holds its type is an item with its name and its
type. -/
theorem resourceDocument_of_typed {s : Scope} {name providerType : String}
    {children : List (String × Node)} {d : Document}
    (htype : (typeField, leaf (.str providerType)) ∈ children)
    (hkeys : (resourceKeys s.style (branch children)).Nodup)
    (hd : (branch children).resourceDocument s name = .ok d) :
    ∃ item, d = .object item ∧
      Entries.get? item (s.style.spell nameField) = some (.str (s.style.spell name)) ∧
      Entries.get? item (s.style.spell typeField) = some (.str providerType) := by
  obtain ⟨fs, hfs, rfl⟩ := resourceDocument_branch_eq_ok.1 hd
  have hnodup : (Entries.names ((s.style.spell nameField, Document.str (s.style.spell name)) :: fs)).Nodup := by
    rw [Entries.names_cons, names_spellAll hfs]
    exact hkeys
  -- the type is not left out, for it is not called `name`
  have hfield : (typeField, leaf (.str providerType)) ∈ children.filter fun c => c.1 != nameField :=
    List.mem_filter.2 ⟨htype, (by decide : (typeField != nameField) = true)⟩
  obtain ⟨v, hv, hmem⟩ := mem_spellAll hfs hfield
  rw [inner, Value.document, return_eq_ok] at hv
  refine ⟨_, rfl, ?_, ?_⟩
  · exact Entries.get?_ofList_of_nodup hnodup List.mem_cons_self
  · rw [← hv] at hmem
    exact Entries.get?_ofList_of_nodup hnodup (List.mem_cons_of_mem _ hmem)

/-- A resource whose branch holds its type is listed. -/
theorem lists_of_typed {s : Scope} {root : Node} {name providerType : String} {d : Document}
    (htype : root.at? [resourcesField, name, typeField] = some (leaf (.str providerType)))
    (hapart : SpelledApart s.style root) (hd : root.document s = .ok d) :
    d.Lists s.style (s.style.spell name) providerType := by
  rw [at?, Option.bind_eq_some_iff] at htype
  obtain ⟨collection, hcollection, htype⟩ := htype
  rw [at?, Option.bind_eq_some_iff] at htype
  obtain ⟨n, hn, htype⟩ := htype
  rw [at?, Option.bind_eq_some_iff] at htype
  obtain ⟨l, hl, htype⟩ := htype
  obtain rfl := Option.some.inj htype
  obtain ⟨top, rfl, hmem⟩ := exists_branch_of_child? hcollection
  obtain ⟨entries, rfl, hentry⟩ := exists_branch_of_child? hn
  obtain ⟨children, rfl, hfield⟩ := exists_branch_of_child? hl
  have honly : ∀ c ∈ top, s.style.spell c.1 = s.style.spell resourcesField →
      c = (resourcesField, branch entries) := fun c hc hspell =>
    List.inj_on_of_nodup_map hapart.children hc hmem hspell
  obtain ⟨fields, items, rfl, hget, hlist⟩ := get?_document_resources hmem honly hd
  obtain ⟨-, hitems⟩ := resourceList_eq_ok hlist
  obtain ⟨i, hi, hat⟩ := List.getElem_of_mem hentry
  obtain ⟨d', hd', hdoc⟩ := hitems i hi
  rw [hat] at hdoc
  have hkeys := hapart.fields _ hcollection _ hentry
  obtain ⟨item, rfl, hname, htype⟩ := resourceDocument_of_typed hfield hkeys hdoc
  exact ⟨fields, items, item, rfl, hget, List.mem_of_getElem? hd', hname, htype⟩

end Node
end ResourceTemplate
