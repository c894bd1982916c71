/-
# A document sees the registry through its look-ups

Of a registry a document uses nothing but the answers for the resources that
the tree demands: not the order of the declarations, and not what else is
declared. So two registries that answer alike for all that is in demand give
one document, or fail alike (`Node.document_agree`). A registry that has
more declared answers alike for all that it had before; hence what could be
made into a document stays the same document (`Node.document_extended`). The
order makes no difference at all where names are distinct
(`Node.document_reordered`).

The induction goes through expressions, values and nodes in turn, along the
list of demands: what two parts demand together each of them demands.

Key definitions: `Obligation.Agree`, `Registry.Extends`.
Key theorems: `Node.document_agree`, `Node.document_extended`,
`Node.document_reordered`.
-/
import ResourceTemplate.Proofs.Obligation
import ResourceTemplate.Proofs.Registry

namespace ResourceTemplate

open Outcome

namespace Obligation

/-- Whether two registries have the same answer for every resource that is in
demand. -/
def Agree (g g' : Registry) (os : List Obligation) : Prop :=
  ∀ name requester, declared name requester ∈ os → g'.find? name = g.find? name

variable {g g' : Registry} {os more : List Obligation}

theorem agree_append : Agree g g' (os ++ more) ↔ Agree g g' os ∧ Agree g g' more := by
  simp only [Agree, List.mem_append, or_imp, forall_and]

/-- A demand that no look-up makes can be left out. -/
theorem Agree.of_cons {o : Obligation} (h : Agree g g' (o :: os)) : Agree g g' os :=
  fun name requester ho => h name requester (List.mem_cons_of_mem o ho)

theorem Agree.resolve {name : String} {requester : Requester} (h : Agree g g' [declared name requester]) :
    g'.resolve name requester = g.resolve name requester := by
  have hfind : g'.find? name = g.find? name := h name requester List.mem_cons_self
  rw [Registry.resolve, Registry.resolve, hfind]

end Obligation

open Obligation

variable {style : KeyStyle} {g g' : Registry}

/-! ### Expressions -/

mutual
theorem Expr.text_agree : ∀ e : Expr, Agree g g' e.obligations → e.text ⟨style, g'⟩ = e.text ⟨style, g⟩
  | .call function args, h => by
    rw [Expr.text, Expr.text, Arg.texts_agree function args h]
  | .linked base links, h => by
    obtain ⟨hbase, hlinks⟩ := agree_append.1 h
    rw [Expr.text, Expr.text, Expr.text_agree base hbase, Link.texts_agree links hlinks]
termination_by structural e => e

theorem Arg.text_agree (function : String) : ∀ a : Arg, Agree g g' (a.obligations function) →
    a.text ⟨style, g'⟩ function = a.text ⟨style, g⟩ function
  | .resource name, h => by
    rw [Arg.text, Arg.text, h.resolve]
  | .expr e, h => by
    rw [Arg.text, Arg.text, Expr.text_agree e h]
  | .str _, _ | .int _, _ | .float _, _ | .bool _, _ | .name _, _ => rfl
termination_by structural a => a

theorem Link.text_agree : ∀ l : Link, Agree g g' l.obligations → l.text ⟨style, g'⟩ = l.text ⟨style, g⟩
  | .method name args, h => by
    rw [Link.text, Link.text, Arg.texts_agree name args h]
  | .property _, _ | .position _, _ | .member _, _ => rfl
termination_by structural l => l

theorem Arg.texts_agree (function : String) : ∀ as : List Arg,
    Agree g g' (Arg.allObligations function as) →
    Arg.texts ⟨style, g'⟩ function as = Arg.texts ⟨style, g⟩ function as
  | [], _ => rfl
  | a :: as, h => by
    obtain ⟨hfirst, hrest⟩ := agree_append.1 h
    rw [Arg.texts, Arg.texts, Arg.text_agree function a hfirst, Arg.texts_agree function as hrest]
termination_by structural as => as

theorem Link.texts_agree : ∀ ls : List Link, Agree g g' (Link.allObligations ls) →
    Link.texts ⟨style, g'⟩ ls = Link.texts ⟨style, g⟩ ls
  | [], _ => rfl
  | l :: ls, h => by
    obtain ⟨hfirst, hrest⟩ := agree_append.1 h
    rw [Link.texts, Link.texts, Link.text_agree l hfirst, Link.texts_agree ls hrest]
termination_by structural ls => ls
end

/-! ### Values -/

mutual
theorem Value.document_agree : ∀ v : Value, Agree g g' v.obligations →
    v.document ⟨style, g'⟩ = v.document ⟨style, g⟩
  | .list items, h => by
    rw [Value.document, Value.document, Value.documents_agree items h]
  | .map entries, h => by
    rw [Value.document, Value.document, Value.fields_agree entries h]
  | .expr e, h => by
    rw [Value.document, Value.document, Expr.bracketed, Expr.bracketed, Expr.text_agree e h]
  | .ref (.declared name requester), h => by
    rw [Value.document, Value.document, Reference.text, Reference.text, h.resolve]
  | .ref (.literal _), _ | .null, _ | .bool _, _ | .int _, _ | .float _, _ | .str _, _ => rfl
termination_by structural v => v

theorem Value.documents_agree : ∀ vs : List Value, Agree g g' (Value.itemObligations vs) →
    Value.documents ⟨style, g'⟩ vs = Value.documents ⟨style, g⟩ vs
  | [], _ => rfl
  | v :: vs, h => by
    obtain ⟨hfirst, hrest⟩ := agree_append.1 h
    rw [Value.documents, Value.documents, Value.document_agree v hfirst, Value.documents_agree vs hrest]
termination_by structural vs => vs

theorem Value.fields_agree : ∀ entries : List (String × Value), Agree g g' (Value.entryObligations entries) →
    Value.fields ⟨style, g'⟩ entries = Value.fields ⟨style, g⟩ entries
  | [], _ => rfl
  | (name, v) :: rest, h => by
    obtain ⟨hfirst, hrest⟩ := agree_append.1 h
    rw [Value.fields, Value.fields, Value.document_agree v hfirst, Value.fields_agree rest hrest]
termination_by structural entries => entries
end

/-! ### Nodes -/

namespace Node

mutual
theorem inner_agree : ∀ n : Node, Agree g g' n.innerObligations → n.inner ⟨style, g'⟩ = n.inner ⟨style, g⟩
  | .leaf v, h => Value.document_agree v h
  | .branch children, h => by
    rw [inner, inner, fields_agree children h]
termination_by structural n => n

theorem fields_agree : ∀ children : List (String × Node), Agree g g' (fieldObligations children) →
    fields ⟨style, g'⟩ children = fields ⟨style, g⟩ children
  | [], _ => rfl
  | (name, n) :: rest, h => by
    obtain ⟨hfirst, hrest⟩ := agree_append.1 h
    rw [fields, fields, inner_agree n hfirst, fields_agree rest hrest]
termination_by structural children => children
end

theorem resourceDocument_agree (name : String) : ∀ n : Node, Agree g g' (resourceObligations name n) →
    n.resourceDocument ⟨style, g'⟩ name = n.resourceDocument ⟨style, g⟩ name
  | .leaf _, _ => rfl
  | .branch children, h => by
    have hfields : Agree g g' (fieldObligations (children.filter fun c => c.1 != nameField)) := h.of_cons
    rw [resourceDocument, resourceDocument, fields_agree _ hfields]

theorem resourceList_agree : ∀ entries : List (String × Node),
    Agree g g' (entries.flatMap fun c => resourceObligations c.1 c.2) →
    resourceList ⟨style, g'⟩ entries = resourceList ⟨style, g⟩ entries
  | [], _ => rfl
  | (name, n) :: rest, h => by
    rw [List.flatMap_cons, agree_append] at h
    rw [resourceList, resourceList, resourceDocument_agree name n h.1, resourceList_agree rest h.2]

theorem rootChild_agree (name : String) (n : Node) (h : Agree g g' (rootChildObligations name n)) :
    n.rootChild ⟨style, g'⟩ name = n.rootChild ⟨style, g⟩ name := by
  cases n with
  | leaf v => exact Value.document_agree v h
  | branch children =>
    rw [rootChildObligations] at h
    by_cases hname : name = resourcesField
    · rw [if_pos hname] at h
      rw [rootChild, rootChild, if_pos hname, if_pos hname, resourceList_agree children h]
    · rw [if_neg hname] at h
      have hinner : (branch children).inner ⟨style, g'⟩ = (branch children).inner ⟨style, g⟩ :=
        inner_agree (branch children) h
      rw [rootChild, rootChild, if_neg hname, if_neg hname, hinner]

theorem rootFields_agree : ∀ children : List (String × Node),
    Agree g g' (children.flatMap fun c => rootChildObligations c.1 c.2) →
    rootFields ⟨style, g'⟩ children = rootFields ⟨style, g⟩ children
  | [], _ => rfl
  | (name, n) :: rest, h => by
    rw [List.flatMap_cons, agree_append] at h
    rw [rootFields, rootFields, rootChild_agree name n h.1, rootFields_agree rest h.2]

/-- **A document depends on the look-ups alone.** Registries that answer alike
for all that a tree demands give it one document, or fail alike. -/
theorem document_agree (root : Node) (h : Agree g g' root.obligations) :
    root.document ⟨style, g'⟩ = root.document ⟨style, g⟩ := by
  cases root with
  | leaf v => exact Value.document_agree v h
  | branch children => rw [document, document, rootFields_agree children h]

end Node

/-! ### More declarations, and another order of them -/

/-- Whether whatever one registry declares another declares too, as the same
resource. -/
def Registry.Extends (g' g : Registry) : Prop :=
  ∀ name r, g.find? name = some r → g'.find? name = some r

/-- What is registered later hides nothing. -/
theorem Registry.extends_append (g : Registry) (rs : List Resource) :
    Registry.Extends ⟨g.resources ++ rs⟩ g := by
  intro name r h
  rw [find?, List.find?_append]
  exact Option.or_eq_some_iff.2 (.inl h)

/-- Registries of the same resources answer alike, whatever the order. -/
theorem Registry.Distinct.find?_eq_of_perm (hg : g.Distinct) (h : g.resources.Perm g'.resources)
    (name : String) : g'.find? name = g.find? name := by
  have hnames : (g.resources.map (·.name)).Perm (g'.resources.map (·.name)) := h.map _
  have hg' : g'.Distinct := hnames.nodup_iff.1 hg
  cases hr : g.find? name with
  | none =>
    have hmem : name ∉ g.resources.map (·.name) := find?_eq_none_iff.1 hr
    rw [hnames.mem_iff] at hmem
    exact find?_eq_none_iff.2 hmem
  | some r =>
    obtain rfl : r.name = name := by simpa using List.find?_some hr
    have hmem : r ∈ g'.resources := h.mem_iff.1 (List.mem_of_find?_eq_some hr)
    exact hg'.find?_eq_some hmem

namespace Node

/-- A demand is met by whatever extends the registry that meets it. -/
theorem agree_of_document (hext : g'.Extends g) {root : Node} {doc : Document}
    (h : root.document ⟨style, g⟩ = .ok doc) : Agree g g' root.obligations := by
  intro name requester ho
  have hmet : (declared name requester).isMet g := by
    by_contra hnot
    obtain ⟨e, he⟩ := exists_firstError_iff.2 ⟨_, ho, hnot⟩
    rw [← failure?_document ⟨style, g⟩ root, h] at he
    exact absurd he (by simp [failure?])
  obtain ⟨r, hr⟩ := Option.isSome_iff_exists.1 hmet
  rw [hr, hext name r hr]

/-- What could be made into a document is the same document for a registry
that declares more. -/
theorem document_extended (hext : g'.Extends g) {root : Node} {doc : Document}
    (h : root.document ⟨style, g⟩ = .ok doc) : root.document ⟨style, g'⟩ = .ok doc := by
  rw [document_agree root (agree_of_document hext h), h]

/-- The order of the declarations makes no difference. -/
theorem document_reordered (hg : g.Distinct) (h : g.resources.Perm g'.resources) (root : Node) :
    root.document ⟨style, g'⟩ = root.document ⟨style, g⟩ :=
  document_agree root fun name _ _ => hg.find?_eq_of_perm h name

end Node
end ResourceTemplate
