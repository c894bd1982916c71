/-
# Trees resolved before their document is made

A document can be made in two passes. The first resolves the values of the
tree: every reference to a declared resource becomes a literal one, and every
expression is resolved in place. The second makes the document of what is
left, with no registry at all. The names of the tree are not resolved, for
they belong to the second pass; the names in a mapping are the caller's and
belong to neither.

A document is made from those of the leaves (`Node.document_mapLeaves`), so
it is enough that a resolved value has the document of the value it came
from (`Value.document_resolved`). What was not declared is left over and
fails as before. If nothing was left over, the document of a resolved value
is the same in every scope.

Key definitions: `Value.resolved`, `Node.mapLeaves`, `Node.resolved`,
`Node.leaves`.
Key theorems: `Value.document_resolved`, `Node.document_mapLeaves`,
`Node.document_eq_document_resolved`.
-/
import ResourceTemplate.Expr.Intrinsic
import ResourceTemplate.Proofs.Expr.Resolved

namespace ResourceTemplate

open Obligation Outcome

/-! ### Values -/

/-- A reference to what is declared, as a literal; one to what is not declared
stays. -/
def Reference.resolved (s : Scope) : Reference → Reference
  | .literal text => .literal text
  | .declared name requester =>
    match s.registry.find? name with
    | some r => .literal (r.qualified s.style)
    | none => .declared name requester

mutual
/-- A value with its references and expressions resolved, at every depth. -/
def Value.resolved (s : Scope) : Value → Value
  | .null => .null
  | .bool flag => .bool flag
  | .int number => .int number
  | .float number => .float number
  | .str text => .str text
  | .list items => .list (Value.resolvedItems s items)
  | .map entries => .map (Value.resolvedEntries s entries)
  | .expr e => .expr (e.resolved s)
  | .ref r => .ref (r.resolved s)
termination_by structural v => v

/-- The items of a list, each resolved. -/
def Value.resolvedItems (s : Scope) : List Value → List Value
  | [] => []
  | v :: vs => v.resolved s :: Value.resolvedItems s vs
termination_by structural vs => vs

/-- The entries of a mapping, each resolved under the name it has. -/
def Value.resolvedEntries (s : Scope) : List (String × Value) → List (String × Value)
  | [] => []
  | (name, v) :: rest => (name, v.resolved s) :: Value.resolvedEntries s rest
termination_by structural entries => entries
end

variable {s s' : Scope}

theorem Reference.text_resolved {name : String} {requester : Requester}
    (h : Covers s.registry s'.registry [.declared name requester]) :
    ((Reference.declared name requester).resolved s).text s' =
      (Reference.declared name requester).text s := by
  rw [Reference.resolved, Reference.text, Registry.resolve]
  cases hr : s.registry.find? name with
  | some r => rfl
  | none =>
    rw [Reference.text, Registry.resolve, h.find?_eq_none hr]
    rfl

mutual
/-- **A resolved value has the document of the value.** -/
theorem Value.document_resolved : ∀ v : Value, Covers s.registry s'.registry v.obligations →
    (v.resolved s).document s' = v.document s
  | .list items, h => by
    rw [Value.resolved, Value.document, Value.document, Value.documents_resolved items h]
  | .map entries, h => by
    rw [Value.resolved, Value.document, Value.document, Value.fields_resolved entries h]
  | .expr e, h => by
    rw [Value.resolved, Value.document, Value.document, Expr.bracketed_resolved h]
  | .ref (.declared name requester), h => by
    rw [Value.resolved, Value.document, Value.document, Reference.text_resolved h]
  | .ref (.literal _), _ | .null, _ | .bool _, _ | .int _, _ | .float _, _ | .str _, _ => rfl
termination_by structural v => v

theorem Value.documents_resolved : ∀ vs : List Value,
    Covers s.registry s'.registry (Value.itemObligations vs) →
    Value.documents s' (Value.resolvedItems s vs) = Value.documents s vs
  | [], _ => rfl
  | v :: vs, h => by
    rw [Value.itemObligations, covers_append] at h
    rw [Value.resolvedItems, Value.documents, Value.documents, Value.document_resolved v h.1,
      Value.documents_resolved vs h.2]
termination_by structural vs => vs

theorem Value.fields_resolved : ∀ entries : List (String × Value),
    Covers s.registry s'.registry (Value.entryObligations entries) →
    Value.fields s' (Value.resolvedEntries s entries) = Value.fields s entries
  | [], _ => rfl
  | (name, v) :: rest, h => by
    rw [Value.entryObligations, covers_append] at h
    rw [Value.resolvedEntries, Value.fields, Value.fields, Value.document_resolved v h.1,
      Value.fields_resolved rest h.2]
termination_by structural entries => entries
end

/-- A value whose demands are met has a document. -/
theorem Value.exists_document_of_met {v : Value} (h : ∀ o ∈ v.obligations, o.isMet s.registry) :
    ∃ d, v.document s = .ok d := by
  rw [← failure?_eq_none_iff, Value.failure?_document, firstError_eq_none_iff]
  exact h

/-! ### Trees -/

namespace Node

mutual
/-- The tree with `f` applied to the value of every leaf. -/
def mapLeaves (f : Value → Value) : Node → Node
  | .leaf v => .leaf (f v)
  | .branch children => .branch (mapLeavesOf f children)
termination_by structural n => n

/-- Children with `f` applied to the value of every leaf. -/
def mapLeavesOf (f : Value → Value) : List (String × Node) → List (String × Node)
  | [] => []
  | (name, n) :: rest => (name, n.mapLeaves f) :: mapLeavesOf f rest
termination_by structural children => children
end

mutual
/-- The values of the leaves, in order. -/
def leaves : Node → List Value
  | .leaf v => [v]
  | .branch children => leavesOf children
termination_by structural n => n

/-- The values of the leaves of children, in order. -/
def leavesOf : List (String × Node) → List Value
  | [] => []
  | (_, n) :: rest => n.leaves ++ leavesOf rest
termination_by structural children => children
end

/-- The tree with every value resolved. -/
def resolved (s : Scope) (n : Node) : Node := n.mapLeaves (·.resolved s)

variable {f : Value → Value}

theorem mapLeavesOf_filter (p : String → Bool) (children : List (String × Node)) :
    (mapLeavesOf f children).filter (fun c => p c.1) = mapLeavesOf f (children.filter fun c => p c.1) := by
  induction children with
  | nil => rfl
  | cons c rest ih =>
    rw [mapLeavesOf, List.filter_cons, List.filter_cons, ih]
    cases p c.1 <;> rfl

mutual
theorem leaves_mapLeaves : ∀ n : Node, (n.mapLeaves f).leaves = n.leaves.map f
  | .leaf _ => rfl
  | .branch children => leavesOf_mapLeavesOf children
termination_by structural n => n

theorem leavesOf_mapLeavesOf : ∀ children : List (String × Node),
    leavesOf (mapLeavesOf f children) = (leavesOf children).map f
  | [] => rfl
  | (name, n) :: rest => by
    rw [mapLeavesOf, leavesOf, leavesOf, leaves_mapLeaves n, leavesOf_mapLeavesOf rest, List.map_append]
termination_by structural children => children
end

/-- Whether `f` keeps the document of every value from one scope to another
one of the same style. -/
structure KeepsDocuments (s s' : Scope) (f : Value → Value) : Prop where
  style : s'.style = s.style
  value : ∀ v, (f v).document s' = v.document s

mutual
theorem inner_mapLeaves (h : KeepsDocuments s s' f) : ∀ n : Node,
    (n.mapLeaves f).inner s' = n.inner s
  | .leaf v => h.value v
  | .branch children => by rw [mapLeaves, inner, inner, fields_mapLeavesOf h children]
termination_by structural n => n

theorem fields_mapLeavesOf (h : KeepsDocuments s s' f) : ∀ children : List (String × Node),
    fields s' (mapLeavesOf f children) = fields s children
  | [] => rfl
  | (name, n) :: rest => by
    rw [mapLeavesOf, fields, fields, inner_mapLeaves h n, fields_mapLeavesOf h rest, h.style]
termination_by structural children => children
end

theorem resourceDocument_mapLeaves (h : KeepsDocuments s s' f) (name : String) : ∀ n : Node,
    (n.mapLeaves f).resourceDocument s' name = n.resourceDocument s name
  | .leaf _ => rfl
  | .branch children => by
    rw [mapLeaves, resourceDocument, resourceDocument, mapLeavesOf_filter (· != nameField),
      fields_mapLeavesOf h, h.style]

theorem resourceList_mapLeavesOf (h : KeepsDocuments s s' f) : ∀ entries : List (String × Node),
    resourceList s' (mapLeavesOf f entries) = resourceList s entries
  | [] => rfl
  | (name, n) :: rest => by
    rw [mapLeavesOf, resourceList, resourceList, resourceDocument_mapLeaves h,
      resourceList_mapLeavesOf h rest]

theorem rootChild_mapLeaves (h : KeepsDocuments s s' f) (name : String) : ∀ n : Node,
    (n.mapLeaves f).rootChild s' name = n.rootChild s name
  | .leaf v => h.value v
  | .branch children => by
    have hinner : (branch (mapLeavesOf f children)).inner s' = (branch children).inner s :=
      inner_mapLeaves h (branch children)
    rw [mapLeaves, rootChild, rootChild, resourceList_mapLeavesOf h, hinner]

theorem rootFields_mapLeavesOf (h : KeepsDocuments s s' f) : ∀ children : List (String × Node),
    rootFields s' (mapLeavesOf f children) = rootFields s children
  | [] => rfl
  | (name, n) :: rest => by
    rw [mapLeavesOf, rootFields, rootFields, rootChild_mapLeaves h, rootFields_mapLeavesOf h rest, h.style]

/-- A document is made from those of the leaves. -/
theorem document_mapLeaves (h : KeepsDocuments s s' f) : ∀ root : Node,
    (root.mapLeaves f).document s' = root.document s
  | .leaf v => h.value v
  | .branch children => by rw [mapLeaves, document, document, rootFields_mapLeavesOf h]

/-- Without any registry nothing is looked up, so what was left over fails as
before. -/
theorem keepsDocuments_resolved (s : Scope) :
    KeepsDocuments s { style := s.style } fun v => v.resolved s where
  style := rfl
  value v := Value.document_resolved v (covers_empty s.registry v.obligations)

/-- **One pass is resolving first and writing afterwards.** The document of a
tree is that of the resolved tree in the same style without any registry, and
fails as that does. If every resource that the values of the tree refer to is
declared, each value has a document, and its resolved form has the same one in
every scope. -/
theorem document_eq_document_resolved (s : Scope) (root : Node) :
    root.document s = (root.resolved s).document { style := s.style } ∧
    ((∀ v ∈ root.leaves, ∀ o ∈ v.obligations, o.isMet s.registry) →
      (root.resolved s).leaves = root.leaves.map (·.resolved s) ∧
      ∀ v ∈ root.leaves, ∃ d, v.document s = .ok d ∧ ∀ s', (v.resolved s).document s' = .ok d) := by
  constructor
  · exact (document_mapLeaves (keepsDocuments_resolved s) root).symm
  · intro hmet
    refine ⟨leaves_mapLeaves root, fun v hv => ?_⟩
    obtain ⟨d, hd⟩ := Value.exists_document_of_met (hmet v hv)
    refine ⟨d, hd, fun s' => ?_⟩
    rw [Value.document_resolved v (covers_of_met (hmet v hv) s'.registry), hd]

/-- The machine refers to the database twice, as a dependency and in a chain
on its identifier. -/
def dependentRoot : Node := .branch [(resourcesField, .branch [("web_app", .branch [
  ("depends_on", .leaf (.dependsOn [.literal "Kind/other", .toResource "main_db"])),
  ("state", .leaf (.map [("raw_key", .expr ((Intrinsic.reference
    [.expr (Intrinsic.resourceId [.resource "main_db"]), .name (.styled "full_view")]).propertyKey
      (.styled "db_state")))]))])])]

/-- The scope in which the database is declared. -/
def dependentScope : Scope where
  style := .standard
  registry := ⟨[{ name := "main_db", providerType := "Sql/servers" }]⟩

/-- Resolved first, the machine has the document that it has in one pass. -/
theorem document_dependentRoot_resolved :
    (∀ v ∈ dependentRoot.leaves, ∀ o ∈ v.obligations, o.isMet dependentScope.registry) ∧
    (dependentRoot.resolved dependentScope).document { style := .standard } =
      .ok (.object [("resources", .list [.object [
        ("name", .str "webApp"), ("dependsOn", .list [.str "Kind/other", .str "Sql/servers/mainDb"]),
        ("state", .object [("raw_key",
          .str "[reference(resourceId('Sql/servers', 'mainDb'), 'fullView').dbState]")])]])]) ∧
    ∀ v ∈ dependentRoot.leaves, ∃ d, v.document dependentScope = .ok d ∧
      ∀ s', (v.resolved dependentScope).document s' = .ok d := by
  have hmet : ∀ v ∈ dependentRoot.leaves, ∀ o ∈ v.obligations, o.isMet dependentScope.registry := by
    decide
  obtain ⟨hdocument, hleaves⟩ := document_eq_document_resolved dependentScope dependentRoot
  refine ⟨hmet, ?_, (hleaves hmet).2⟩
  refine Eq.trans hdocument.symm ?_
  rfl

end Node
end ResourceTemplate
