/-
# What values become

A document is plain data, and taken as a value it becomes itself, at every
depth and in every scope (`Document.value`, `Value.document_value`). The
numbers of a document are finite; one that is not finite becomes null, so
what a value becomes has finite numbers only (`Value.finite_of_document`). An
expression becomes its text in brackets, and a reference the text it is given
as or the provider type and the name of its resource. A dependency list
becomes the list of the texts of its references, whoever they were recorded
for.

Key definitions: `Document.value`, `Document.Finite`.
Key theorems: `Value.document_value`, `Value.finite_of_document`,
`Value.document_of_each_kind`, `Value.document_dependsOn_eq_ok_iff`.
-/
import ResourceTemplate.Proofs.Document.Collected

namespace ResourceTemplate

open Outcome

/-! ### Plain data -/

mutual
/-- A document as a value. -/
def Document.value : Document → Value
  | .null => .null
  | .bool flag => .bool flag
  | .int number => .int number
  | .float number => .float number
  | .str text => .str text
  | .list items => .list (Document.itemValues items)
  | .object fields => .map (Document.fieldValues fields)
termination_by structural d => d

/-- The items of a document as values. -/
def Document.itemValues : List Document → List Value
  | [] => []
  | d :: ds => d.value :: Document.itemValues ds
termination_by structural ds => ds

/-- The fields of a document as entries, under the names they have. -/
def Document.fieldValues : List (String × Document) → List (String × Value)
  | [] => []
  | (name, d) :: rest => (name, d.value) :: Document.fieldValues rest
termination_by structural fields => fields
end

mutual
/-- Whether all numbers of a document are finite. -/
def Document.Finite : Document → Prop
  | .float number => number.isFinite
  | .list items => Document.ItemsFinite items
  | .object fields => Document.FieldsFinite fields
  | .null | .bool _ | .int _ | .str _ => True
termination_by structural d => d

/-- Whether all numbers of items are finite. -/
def Document.ItemsFinite : List Document → Prop
  | [] => True
  | d :: ds => d.Finite ∧ Document.ItemsFinite ds
termination_by structural ds => ds

/-- Whether all numbers of fields are finite. -/
def Document.FieldsFinite : List (String × Document) → Prop
  | [] => True
  | (_, d) :: rest => d.Finite ∧ Document.FieldsFinite rest
termination_by structural fields => fields
end

mutual
/-- **Plain data become themselves.** -/
theorem Value.document_value (s : Scope) : ∀ d : Document, d.Finite → d.value.document s = .ok d
  | .float number, h => by
    have hfinite : number.isFinite := h
    rw [Document.value, Value.document, if_pos hfinite]
    rfl
  | .list items, h => by
    rw [Document.value, Value.document, Value.documents_itemValues s items h]
    rfl
  | .object fields, h => by
    rw [Document.value, Value.document, Value.fields_fieldValues s fields h]
    rfl
  | .null, _ | .bool _, _ | .int _, _ | .str _, _ => rfl
termination_by structural d => d

theorem Value.documents_itemValues (s : Scope) : ∀ ds : List Document, Document.ItemsFinite ds →
    Value.documents s (Document.itemValues ds) = .ok ds
  | [], _ => rfl
  | d :: ds, h => by
    rw [Document.itemValues, Value.documents, Value.document_value s d h.1,
      Value.documents_itemValues s ds h.2]
    rfl
termination_by structural ds => ds

theorem Value.fields_fieldValues (s : Scope) : ∀ fields : List (String × Document),
    Document.FieldsFinite fields → Value.fields s (Document.fieldValues fields) = .ok fields
  | [], _ => rfl
  | (name, d) :: rest, h => by
    rw [Document.fieldValues, Value.fields, Value.document_value s d h.1,
      Value.fields_fieldValues s rest h.2]
    rfl
termination_by structural fields => fields
end

mutual
/-- What a value becomes has finite numbers only. -/
theorem Value.finite_of_document {s : Scope} : ∀ (v : Value) {d : Document}, v.document s = .ok d →
    d.Finite
  | .float number, d, h => by
    obtain rfl := return_eq_ok.1 h
    by_cases hfinite : number.isFinite
    · rw [if_pos hfinite]
      exact hfinite
    · rw [if_neg hfinite]
      trivial
  | .list items, d, h => by
    obtain ⟨ds, hds, h⟩ := bind_eq_ok.1 h
    obtain rfl := return_eq_ok.1 h
    exact Value.itemsFinite_of_documents items hds
  | .map entries, d, h => by
    obtain ⟨fields, hfields, h⟩ := bind_eq_ok.1 h
    obtain rfl := return_eq_ok.1 h
    exact Value.fieldsFinite_of_fields entries hfields
  | .expr _, d, h | .ref _, d, h => by
    obtain ⟨t, -, h⟩ := bind_eq_ok.1 h
    obtain rfl := return_eq_ok.1 h
    trivial
  | .null, d, h | .bool _, d, h | .int _, d, h | .str _, d, h => by
    obtain rfl := return_eq_ok.1 h
    trivial
termination_by structural v => v

theorem Value.itemsFinite_of_documents {s : Scope} : ∀ (vs : List Value) {ds : List Document},
    Value.documents s vs = .ok ds → Document.ItemsFinite ds
  | [], ds, h => by
    obtain rfl := return_eq_ok.1 h
    trivial
  | v :: vs, ds, h => by
    obtain ⟨d, hd, h⟩ := bind_eq_ok.1 h
    obtain ⟨rest, hrest, h⟩ := bind_eq_ok.1 h
    obtain rfl := return_eq_ok.1 h
    exact ⟨Value.finite_of_document v hd, Value.itemsFinite_of_documents vs hrest⟩
termination_by structural vs => vs

theorem Value.fieldsFinite_of_fields {s : Scope} : ∀ (entries : List (String × Value))
    {fields : List (String × Document)}, Value.fields s entries = .ok fields →
    Document.FieldsFinite fields
  | [], fields, h => by
    obtain rfl := return_eq_ok.1 h
    trivial
  | (_, v) :: entries, fields, h => by
    obtain ⟨d, hd, h⟩ := bind_eq_ok.1 h
    obtain ⟨rest, hrest, h⟩ := bind_eq_ok.1 h
    obtain rfl := return_eq_ok.1 h
    exact ⟨Value.finite_of_document v hd, Value.fieldsFinite_of_fields entries hrest⟩
termination_by structural entries => entries
end

/-! ### Expressions and references -/

variable {s : Scope} {d : Document}

namespace Value

theorem document_expr_eq_ok_iff {e : Expr} :
    (Value.expr e).document s = .ok d ↔ ∃ t, e.text s = .ok t ∧ d = .str ("[" ++ t ++ "]") := by
  rw [document, bind_eq_ok]
  constructor
  · rintro ⟨b, hb, h⟩
    obtain ⟨t, ht, hbracketed⟩ := bind_eq_ok.1 hb
    obtain rfl := return_eq_ok.1 hbracketed
    exact ⟨t, ht, (return_eq_ok.1 h).symm⟩
  · rintro ⟨t, ht, rfl⟩
    exact ⟨_, bind_eq_ok.2 ⟨t, ht, rfl⟩, rfl⟩

theorem document_ref_eq_ok_iff {ref : Reference} :
    (Value.ref ref).document s = .ok d ↔ ∃ t, ref.text s = .ok t ∧ d = .str t := by
  rw [document, bind_eq_ok]
  constructor
  · rintro ⟨t, ht, h⟩
    exact ⟨t, ht, (return_eq_ok.1 h).symm⟩
  · rintro ⟨t, ht, rfl⟩
    exact ⟨t, ht, rfl⟩

theorem document_declared_eq_ok_iff {name : String} {requester : Requester} :
    (Value.ref (.declared name requester)).document s = .ok d ↔
      ∃ r, s.registry.find? name = some r ∧ d = .str (r.providerType ++ "/" ++ s.style.spell r.name) := by
  rw [document_ref_eq_ok_iff, Reference.text, Registry.resolve]
  cases s.registry.find? name with
  | none => simp [bind, Except.bind]
  | some r => simp [bind, Except.bind, pure, Except.pure, Resource.qualified, Resource.rendered]

/-- References become their texts, one for one and in order. -/
theorem map_document_ref_eq_iff {refs : List Reference} {ds : List Document} :
    (refs.map fun ref => (Value.ref ref).document s) = ds.map .ok ↔
      ∃ ts : List String, ds = ts.map .str ∧ refs.map (·.text s) = ts.map .ok := by
  induction refs generalizing ds with
  | nil => simp
  | cons ref refs ih =>
    constructor
    · intro h
      cases ds with
      | nil => exact absurd h (List.cons_ne_nil _ _)
      | cons d rest =>
        obtain ⟨hd, hrest⟩ := List.cons.inj h
        obtain ⟨t, ht, rfl⟩ := document_ref_eq_ok_iff.1 hd
        obtain ⟨ts, rfl, hts⟩ := ih.1 hrest
        exact ⟨t :: ts, rfl, by rw [List.map_cons, ht, hts, List.map_cons]⟩
    · rintro ⟨ts, rfl, h⟩
      cases ts with
      | nil => exact absurd h (List.cons_ne_nil _ _)
      | cons t ts =>
        obtain ⟨ht, hts⟩ := List.cons.inj h
        rw [List.map_cons, document_ref_eq_ok_iff.2 ⟨t, ht, rfl⟩, ih.2 ⟨ts, rfl, hts⟩]
        rfl

/-- **Dependencies become what they refer to.** -/
theorem document_dependsOn_eq_ok_iff {refs : List Reference} :
    (dependsOn refs).document s = .ok d ↔ ∃ ts : List String, d = .list (ts.map .str) ∧
      (refs.map fun ref => (ref.recordedBy .dependsOn).text s) = ts.map .ok := by
  have hrefs : ∀ ds : List Document,
      (refs.map fun ref => Value.ref (ref.recordedBy .dependsOn)).map (·.document s) = ds.map .ok ↔
        ∃ ts : List String, ds = ts.map .str ∧
          (refs.map fun ref => (ref.recordedBy .dependsOn).text s) = ts.map .ok := by
    intro ds
    have h := @map_document_ref_eq_iff s (refs.map (·.recordedBy .dependsOn)) ds
    rw [List.map_map, List.map_map] at h
    rw [List.map_map]
    exact h
  rw [dependsOn, document_list_eq_ok_iff]
  constructor
  · rintro ⟨ds, rfl, h⟩
    obtain ⟨ts, rfl, hts⟩ := (hrefs ds).1 h
    exact ⟨ts, rfl, hts⟩
  · rintro ⟨ts, rfl, hts⟩
    exact ⟨ts.map .str, rfl, (hrefs _).2 ⟨ts, rfl, hts⟩⟩

/-- **What a value becomes.** Plain data become themselves; a number that is
not finite becomes null. An expression becomes its text in brackets, a literal
reference its text, and a reference to a declared resource the provider type
and the spelled name. In whatever comes of a value the numbers are finite. -/
theorem document_of_each_kind (s : Scope) :
    (∀ d : Document, d.Finite → d.value.document s = .ok d) ∧
    (∀ number : Binary64, ¬ number.isFinite → (Value.float number).document s = .ok .null) ∧
    (∀ e d, (Value.expr e).document s = .ok d ↔ ∃ t, e.text s = .ok t ∧ d = .str ("[" ++ t ++ "]")) ∧
    (∀ text, (Value.ref (.literal text)).document s = .ok (.str text)) ∧
    (∀ name requester d, (Value.ref (.declared name requester)).document s = .ok d ↔
      ∃ r, s.registry.find? name = some r ∧ d = .str (r.providerType ++ "/" ++ s.style.spell r.name)) ∧
    ∀ (v : Value) d, v.document s = .ok d → d.Finite := by
  refine ⟨document_value s, ?_, ?_, ?_, ?_, ?_⟩
  · intro number hnumber
    rw [document, if_neg hnumber]
    rfl
  · exact fun e d => document_expr_eq_ok_iff
  · exact fun text => rfl
  · exact fun name requester d => document_declared_eq_ok_iff
  · exact fun v d => finite_of_document v

end Value
end ResourceTemplate
