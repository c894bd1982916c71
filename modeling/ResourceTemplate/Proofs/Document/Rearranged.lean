/-
# Documents that differ in order only

Two documents are rearranged if one is the other with the fields of objects,
at whatever depth, in another order (`Rearranged`); the items of lists keep
theirs. Documents of trees need one more freedom: the resources are listed in
the order of the tree, so in this one list, which is a field of the root, the
items may come in another order too (`Reordered`).

Key definitions: `Document.Rearranged`, `Document.Shuffled`,
`Document.Reordered`.
Key theorems: `Document.rearranged_object_iff`, `Document.collected_alike`.
-/
import ResourceTemplate.Proofs.Document.Collected
import ResourceTemplate.Proofs.Entries.Paired

namespace ResourceTemplate
namespace Document

open Outcome

/-- Whether one document is the other with the fields of objects in another
order, at any depth. -/
inductive Rearranged : Document → Document → Prop
  | same (d : Document) : Rearranged d d
  | list {items items' : List Document} (h : List.Forall₂ Rearranged items items') :
      Rearranged (.list items) (.list items')
  | object {fields among fields' : List (String × Document)}
      (names : Entries.names fields = Entries.names among)
      (values : List.Forall₂ Rearranged (fields.map (·.2)) (among.map (·.2)))
      (perm : among.Perm fields') : Rearranged (.object fields) (.object fields')

/-- Two objects are rearranged if their fields can be paired. -/
theorem rearranged_object_iff {fields fields' : List (String × Document)} :
    Rearranged (.object fields) (.object fields') ↔ Entries.Paired (fun _ => Rearranged) fields fields' := by
  constructor
  · intro h
    cases h with
    | same => exact ⟨fields, List.forall₂_same.2 fun f _ => ⟨rfl, .same f.2⟩, .refl _⟩
    | @object _ among _ names values perm =>
      rw [Entries.names, Entries.names, ← List.forall₂_eq_eq_eq, List.forall₂_map_left_iff,
        List.forall₂_map_right_iff] at names
      rw [List.forall₂_map_left_iff, List.forall₂_map_right_iff] at values
      exact ⟨among, names.mp (fun f g hname hvalue => ⟨hname, hvalue⟩) values, perm⟩
  · rintro ⟨among, hpairs, perm⟩
    have names : Entries.names fields = Entries.names among :=
      Entries.names_eq_of_forall₂ (R := fun _ => Rearranged) hpairs
    refine .object names ?_ perm
    rw [List.forall₂_map_left_iff, List.forall₂_map_right_iff]
    exact hpairs.imp fun f g hfg => hfg.2

/-- Whether two documents are lists with rearranged items in whatever order. -/
def Shuffled (d d' : Document) : Prop :=
  ∃ items among items', d = .list items ∧ d' = .list items' ∧
    List.Forall₂ Rearranged items among ∧ among.Perm items'

/-- Whether two documents are rearranged, but for the order of the items of
the list that the root has under a key. -/
inductive Reordered (key : String) : Document → Document → Prop
  | rearranged {d d' : Document} (h : d.Rearranged d') : Reordered key d d'
  | object {fields fields' : List (String × Document)}
      (h : Entries.Paired (fun name d d' => d.Rearranged d' ∨ name = key ∧ d.Shuffled d') fields fields') :
      Reordered key (.object fields) (.object fields')

/-- **Objects collected from paired parts have paired fields**, if the parts
of one have different names. Without this what is in a field would depend on
which part comes last. -/
theorem collected_alike {R : String → Document → Document → Prop}
    {parts parts' : List (String × Except Error Document)} (hnodup : (Entries.names parts).Nodup)
    (h : Entries.Paired (fun name => Alike (R name)) parts parts') :
    Alike (fun d d' => ∃ fields fields', d = .object fields ∧ d' = .object fields' ∧
      Entries.Paired R fields fields') (collected parts) (collected parts') := by
  refine h.gather.bind fun fs fs' hfs _ hpaired => ?_
  have hfsNodup : (Entries.names fs).Nodup := by
    rwa [Entries.gather_eq_ok_iff.1 hfs, Entries.names_came] at hnodup
  have hfsNodup' : (Entries.names fs').Nodup := hpaired.names_perm.nodup_iff.1 hfsNodup
  refine .ok ⟨fs, fs', ?_, ?_, hpaired⟩
  · rw [Entries.ofList_of_nodup hfsNodup]
  · rw [Entries.ofList_of_nodup hfsNodup']

end Document
end ResourceTemplate
