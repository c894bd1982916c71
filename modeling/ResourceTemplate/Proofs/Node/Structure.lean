/-
# The structure of a document

Each branch hands over one part for each child: the spelling of its name and
what becomes of it. The object of the branch is what these parts are collected
into, so if two children are spelled alike the object has one field for both,
in the place of the first and with the value of the last. The parts of a
branch below the root are made from its children alone (`innerParts`); those
of a resource start with the name that its place gives it and leave out a
field called `name` (`resourceParts`); at the root the branch `resources`
becomes a list (`rootParts`). Lists and mappings in a value have nothing to
collect: they keep their items and their names. What becomes of plain data,
expressions and references is said in `Value.document_of_each_kind`.

Key definitions: `Node.rootParts`, `Node.innerParts`, `Node.resourceParts`.
Key theorems: `Node.document_branch`, `Node.inner_branch`,
`Node.resourceDocument_branch`, `Node.document_structure`.
-/
import ResourceTemplate.Proofs.Document.Collected
import ResourceTemplate.Proofs.Node.Fields
import ResourceTemplate.Proofs.Value.Document

namespace ResourceTemplate

open Outcome

namespace Node

/-- The parts for the children of a branch below the root. -/
def innerParts (s : Scope) (children : List (String × Node)) : List (String × Except Error Document) :=
  children.map fun c => (s.style.spell c.1, c.2.inner s)

/-- The parts for the children of the root. -/
def rootParts (s : Scope) (children : List (String × Node)) : List (String × Except Error Document) :=
  children.map fun c => (s.style.spell c.1, c.2.rootChild s c.1)

/-- The parts for a resource of a name with the given children. -/
def resourceParts (s : Scope) (name : String) (children : List (String × Node)) :
    List (String × Except Error Document) :=
  (s.style.spell nameField, .ok (.str (s.style.spell name))) ::
    innerParts s (children.filter fun c => c.1 != nameField)

theorem names_innerParts (s : Scope) (children : List (String × Node)) :
    Entries.names (innerParts s children) = children.map fun c => s.style.spell c.1 := by
  rw [innerParts, Entries.names, List.map_map]
  rfl

theorem names_rootParts (s : Scope) (children : List (String × Node)) :
    Entries.names (rootParts s children) = children.map fun c => s.style.spell c.1 := by
  rw [rootParts, Entries.names, List.map_map]
  rfl

theorem spellAll_eq_gather (style : KeyStyle) (f : String → Node → Except Error Document)
    (children : List (String × Node)) :
    spellAll style f children = Entries.gather (children.map fun c => (style.spell c.1, f c.1 c.2)) := by
  induction children with
  | nil => rfl
  | cons c rest ih =>
    rw [spellAll, ih]
    rfl

theorem document_branch (s : Scope) (children : List (String × Node)) :
    (branch children).document s = Document.collected (rootParts s children) := by
  rw [document, rootFields_eq_spellAll, spellAll_eq_gather]
  rfl

theorem inner_branch (s : Scope) (children : List (String × Node)) :
    (branch children).inner s = Document.collected (innerParts s children) := by
  rw [inner, fields_eq_spellAll, spellAll_eq_gather]
  rfl

theorem resourceDocument_branch (s : Scope) (name : String) (children : List (String × Node)) :
    (branch children).resourceDocument s name = Document.collected (resourceParts s name children) := by
  rw [resourceDocument, fields_eq_spellAll, spellAll_eq_gather, Document.collected, resourceParts, innerParts,
    Entries.gather]
  cases Entries.gather ((children.filter fun c => c.1 != nameField).map fun c =>
    (s.style.spell c.1, c.2.inner s)) with
  | error e => rfl
  | ok fs => rfl

variable {s : Scope} {d : Document}

theorem resourceList_eq_ok_iff : ∀ {entries : List (String × Node)} {items : List Document},
    resourceList s entries = .ok items ↔
      List.Forall₂ (fun e item => e.2.resourceDocument s e.1 = .ok item) entries items
  | [], items => by
    rw [resourceList, return_eq_ok, List.forall₂_nil_left_iff, eq_comm]
  | (name, n) :: rest, items => by
    rw [resourceList, bind_eq_ok, List.forall₂_cons_left_iff]
    constructor
    · rintro ⟨item, hitem, h⟩
      obtain ⟨items', hitems, h⟩ := bind_eq_ok.1 h
      exact ⟨item, items', hitem, resourceList_eq_ok_iff.1 hitems, (return_eq_ok.1 h).symm⟩
    · rintro ⟨item, items', hitem, hitems, rfl⟩
      exact ⟨item, hitem, bind_eq_ok.2 ⟨items', resourceList_eq_ok_iff.2 hitems, rfl⟩⟩

/-- Only the child `resources` of the root is treated in a way of its own. -/
theorem rootChild_eq_inner {name : String} (h : name ≠ resourcesField) (n : Node) :
    n.rootChild s name = n.inner s := by
  cases n with
  | leaf v => rw [rootChild, inner]
  | branch children => rw [rootChild, if_neg h]

theorem rootChild_resources_eq_ok_iff {entries : List (String × Node)} :
    (branch entries).rootChild s resourcesField = .ok d ↔ ∃ items, d = .list items ∧
      List.Forall₂ (fun e item => e.2.resourceDocument s e.1 = .ok item) entries items := by
  rw [rootChild, if_pos rfl, bind_eq_ok]
  constructor
  · rintro ⟨items, hitems, h⟩
    exact ⟨items, (return_eq_ok.1 h).symm, resourceList_eq_ok_iff.1 hitems⟩
  · rintro ⟨items, rfl, hitems⟩
    exact ⟨items, resourceList_eq_ok_iff.2 hitems, rfl⟩

end Node
end ResourceTemplate
