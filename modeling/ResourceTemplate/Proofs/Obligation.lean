/-
# What a document demands

A document can be made if two kinds of demands are met: every entry of the
resource collection is a branch, and every resource that is referred to is
declared. The demands of a tree are listed in the order in which its parts
stand in the document: children, items and entries one after the other, an
entry of the resource collection before its fields, the base of a chain
before its links. Neither the style nor the registry has a part in the list,
and a field of a resource that is left out demands nothing.

The document fails if a demand is not met, and then as the first demand that
is not met says (`Node.document_fails_iff`). It is shown for each part that
can hold demands, by one induction over expressions, one over values and one
over nodes. Which operation is named for a resource among arguments is said in
`Expr.failure_names_receiver`.

Key definitions: `Obligation`, `Obligation.isMet`, `Obligation.error`,
`Node.obligations`.
Key theorems: `Node.failure?_document`, `Node.document_fails_iff`.
-/
import ResourceTemplate.Node.Document
import ResourceTemplate.Proofs.Outcome

namespace ResourceTemplate

/-- A demand on what a document is made from. -/
inductive Obligation
  /-- An entry of the resource collection is a branch. -/
  | branch (name : String) (entry : Node)
  /-- A resource is declared, as a requester wants it. -/
  | declared (name : String) (requester : Requester)

namespace Obligation

/-- Whether a demand is met; only the registry has a say in it. -/
def isMet (g : Registry) : Obligation → Bool
  | .branch _ entry => entry.isBranch
  | .declared name _ => (g.find? name).isSome

/-- The failure that tells of a demand that is not met. -/
def error : Obligation → Error
  | .branch name _ => .invalidResource name
  | .declared name requester => .notFound name requester

/-- The failure that the first demand that is not met makes. -/
def firstError (g : Registry) (os : List Obligation) : Option Error :=
  (os.find? fun o => !o.isMet g).map error

theorem firstError_append (g : Registry) (os more : List Obligation) :
    firstError g (os ++ more) = (firstError g os).or (firstError g more) := by
  rw [firstError, List.find?_append, Option.map_or]
  rfl

theorem firstError_eq_some_iff {g : Registry} {os : List Obligation} {e : Error} :
    firstError g os = some e ↔ ∃ before o after, os = before ++ o :: after ∧
      (∀ b ∈ before, b.isMet g) ∧ ¬ o.isMet g ∧ o.error = e := by
  rw [firstError, Option.map_eq_some_iff]
  constructor
  · rintro ⟨o, ho, he⟩
    obtain ⟨hmet, before, after, hos, hbefore⟩ := List.find?_eq_some_iff_append.1 ho
    exact ⟨before, o, after, hos, by simpa using hbefore, by simpa using hmet, he⟩
  · rintro ⟨before, o, after, hos, hbefore, hmet, he⟩
    refine ⟨o, List.find?_eq_some_iff_append.2 ⟨by simpa using hmet, before, after, hos, ?_⟩, he⟩
    simpa using hbefore

theorem exists_firstError_iff {g : Registry} {os : List Obligation} :
    (∃ e, firstError g os = some e) ↔ ∃ o ∈ os, ¬ o.isMet g := by
  rw [← Option.isSome_iff_exists, firstError, Option.isSome_map, List.find?_isSome]
  simp

theorem firstError_eq_none_iff {g : Registry} {os : List Obligation} :
    firstError g os = none ↔ ∀ o ∈ os, o.isMet g := by
  rw [firstError, Option.map_eq_none_iff, List.find?_eq_none]
  simp

end Obligation

/-! ### The demands of a tree -/

mutual
/-- The demands of an expression: the base of a chain comes before its
links. -/
def Expr.obligations : Expr → List Obligation
  | .call function args => Arg.allObligations function args
  | .linked base links => base.obligations ++ Link.allObligations links
termination_by structural e => e

/-- The demands of an argument of a function or a method. -/
def Arg.obligations (function : String) : Arg → List Obligation
  | .resource name => [.declared name (.ofFunction function)]
  | .expr e => e.obligations
  | .str _ | .int _ | .float _ | .bool _ | .name _ => []
termination_by structural a => a

/-- The demands of a link; a method receives its own arguments. -/
def Link.obligations : Link → List Obligation
  | .method name args => Arg.allObligations name args
  | .property _ | .position _ | .member _ => []
termination_by structural l => l

/-- The demands of arguments, from left to right. -/
def Arg.allObligations (function : String) : List Arg → List Obligation
  | [] => []
  | a :: as => a.obligations function ++ Arg.allObligations function as
termination_by structural as => as

/-- The demands of links, in order. -/
def Link.allObligations : List Link → List Obligation
  | [] => []
  | l :: ls => l.obligations ++ Link.allObligations ls
termination_by structural ls => ls
end

mutual
/-- The demands of a value. -/
def Value.obligations : Value → List Obligation
  | .list items => Value.itemObligations items
  | .map entries => Value.entryObligations entries
  | .expr e => e.obligations
  | .ref (.declared name requester) => [.declared name requester]
  | .ref (.literal _) | .null | .bool _ | .int _ | .float _ | .str _ => []
termination_by structural v => v

/-- The demands of the items of a list, in order. -/
def Value.itemObligations : List Value → List Obligation
  | [] => []
  | v :: vs => v.obligations ++ Value.itemObligations vs
termination_by structural vs => vs

/-- The demands of the entries of a mapping, in order. -/
def Value.entryObligations : List (String × Value) → List Obligation
  | [] => []
  | (_, v) :: rest => v.obligations ++ Value.entryObligations rest
termination_by structural entries => entries
end

namespace Node

mutual
/-- The demands of a node below the root. -/
def innerObligations : Node → List Obligation
  | .leaf v => v.obligations
  | .branch children => fieldObligations children
termination_by structural n => n

/-- The demands of children, in order. -/
def fieldObligations : List (String × Node) → List Obligation
  | [] => []
  | (_, n) :: rest => n.innerObligations ++ fieldObligations rest
termination_by structural children => children
end

/-- The demands of an entry of the resource collection: that it is a branch,
and those of its fields but the one that its own name stands for. -/
def resourceObligations (name : String) (n : Node) : List Obligation :=
  .branch name n :: fieldObligations (n.children.filter fun c => c.1 != nameField)

/-- The demands of a child of the root. -/
def rootChildObligations (name : String) : Node → List Obligation
  | .leaf v => v.obligations
  | .branch children =>
    if name = resourcesField then children.flatMap fun c => resourceObligations c.1 c.2
    else fieldObligations children

/-- The demands of a tree. -/
def obligations : Node → List Obligation
  | .leaf v => v.obligations
  | .branch children => children.flatMap fun c => rootChildObligations c.1 c.2

end Node

/-! ### Failures -/

open Outcome Obligation

/-- A look-up fails if the resource is not declared. -/
theorem Registry.failure?_resolve (g : Registry) (name : String) (requester : Requester) :
    failure? (g.resolve name requester) = firstError g [.declared name requester] := by
  unfold Registry.resolve
  cases h : g.find? name with
  | none => simp [firstError, isMet, h, failure?, Obligation.error]
  | some r => simp [firstError, isMet, h, failure?]

mutual
theorem Expr.failure?_text (s : Scope) : ∀ e : Expr,
    failure? (e.text s) = firstError s.registry e.obligations
  | .call function args => by
    rw [Expr.text, Expr.obligations, failure?_bind_return, Arg.failure?_texts s function args]
  | .linked base links => by
    rw [Expr.text, Expr.obligations, firstError_append, ← Expr.failure?_text s base,
      ← Link.failure?_texts s links]
    exact failure?_bind fun t => failure?_bind_return _
termination_by structural e => e

theorem Arg.failure?_text (s : Scope) (function : String) : ∀ a : Arg,
    failure? (a.text s function) = firstError s.registry (a.obligations function)
  | .resource name => by
    rw [Arg.text, Arg.obligations, failure?_bind_return, Registry.failure?_resolve]
  | .expr e => by
    rw [Arg.text, Arg.obligations, failure?_bind_return, Expr.failure?_text s e]
  | .str _ | .int _ | .float _ | .bool _ | .name _ => rfl
termination_by structural a => a

theorem Link.failure?_text (s : Scope) : ∀ l : Link,
    failure? (l.text s) = firstError s.registry l.obligations
  | .method name args => by
    rw [Link.text, Link.obligations, failure?_bind_return, Arg.failure?_texts s name args]
  | .property _ | .position _ | .member _ => rfl
termination_by structural l => l

theorem Arg.failure?_texts (s : Scope) (function : String) : ∀ as : List Arg,
    failure? (Arg.texts s function as) = firstError s.registry (Arg.allObligations function as)
  | [] => rfl
  | a :: as => by
    rw [Arg.texts, Arg.allObligations, firstError_append, ← Arg.failure?_text s function a,
      ← Arg.failure?_texts s function as]
    exact failure?_bind fun t => failure?_bind_return _
termination_by structural as => as

theorem Link.failure?_texts (s : Scope) : ∀ ls : List Link,
    failure? (Link.texts s ls) = firstError s.registry (Link.allObligations ls)
  | [] => rfl
  | l :: ls => by
    rw [Link.texts, Link.allObligations, firstError_append, ← Link.failure?_text s l,
      ← Link.failure?_texts s ls]
    exact failure?_bind fun t => failure?_bind_return _
termination_by structural ls => ls
end

theorem Expr.failure?_bracketed (s : Scope) (e : Expr) :
    failure? (e.bracketed s) = firstError s.registry e.obligations := by
  rw [Expr.bracketed, failure?_bind_return, Expr.failure?_text]

mutual
theorem Value.failure?_document (s : Scope) : ∀ v : Value,
    failure? (v.document s) = firstError s.registry v.obligations
  | .list items => by
    rw [Value.document, Value.obligations, failure?_bind_return, Value.failure?_documents s items]
  | .map entries => by
    rw [Value.document, Value.obligations, failure?_bind_return, Value.failure?_fields s entries]
  | .expr e => by
    rw [Value.document, Value.obligations, failure?_bind_return, Expr.failure?_bracketed]
  | .ref (.declared name requester) => by
    rw [Value.document, Value.obligations, failure?_bind_return, Reference.text, failure?_bind_return,
      Registry.failure?_resolve]
  | .ref (.literal _) | .null | .bool _ | .int _ | .float _ | .str _ => rfl
termination_by structural v => v

theorem Value.failure?_documents (s : Scope) : ∀ vs : List Value,
    failure? (Value.documents s vs) = firstError s.registry (Value.itemObligations vs)
  | [] => rfl
  | v :: vs => by
    rw [Value.documents, Value.itemObligations, firstError_append, ← Value.failure?_document s v,
      ← Value.failure?_documents s vs]
    exact failure?_bind fun d => failure?_bind_return _
termination_by structural vs => vs

theorem Value.failure?_fields (s : Scope) : ∀ entries : List (String × Value),
    failure? (Value.fields s entries) = firstError s.registry (Value.entryObligations entries)
  | [] => rfl
  | (name, v) :: rest => by
    rw [Value.fields, Value.entryObligations, firstError_append, ← Value.failure?_document s v,
      ← Value.failure?_fields s rest]
    exact failure?_bind fun d => failure?_bind_return _
termination_by structural entries => entries
end

namespace Node

mutual
theorem failure?_inner (s : Scope) : ∀ n : Node,
    failure? (n.inner s) = firstError s.registry n.innerObligations
  | .leaf v => by rw [inner, innerObligations, Value.failure?_document]
  | .branch children => by
    rw [inner, innerObligations, failure?_bind_return, failure?_fields s children]
termination_by structural n => n

theorem failure?_fields (s : Scope) : ∀ children : List (String × Node),
    failure? (fields s children) = firstError s.registry (fieldObligations children)
  | [] => rfl
  | (name, n) :: rest => by
    rw [fields, fieldObligations, firstError_append, ← failure?_inner s n, ← failure?_fields s rest]
    exact failure?_bind fun d => failure?_bind_return _
termination_by structural children => children
end

/-- A resource that is no branch fails before anything else can. -/
theorem failure?_resourceDocument (s : Scope) (name : String) : ∀ n : Node,
    failure? (n.resourceDocument s name) = firstError s.registry (resourceObligations name n)
  | .leaf v => rfl
  | .branch children => by
    rw [resourceDocument, failure?_bind_return, failure?_fields]
    rfl

theorem failure?_resourceList (s : Scope) : ∀ entries : List (String × Node),
    failure? (resourceList s entries) =
      firstError s.registry (entries.flatMap fun c => resourceObligations c.1 c.2)
  | [] => rfl
  | (name, n) :: rest => by
    rw [resourceList, List.flatMap_cons, firstError_append, ← failure?_resourceDocument s name n,
      ← failure?_resourceList s rest]
    exact failure?_bind fun d => failure?_bind_return _

theorem failure?_rootChild (s : Scope) (name : String) : ∀ n : Node,
    failure? (n.rootChild s name) = firstError s.registry (rootChildObligations name n)
  | .leaf v => by rw [rootChild, rootChildObligations, Value.failure?_document]
  | .branch children => by
    rw [rootChild, rootChildObligations]
    by_cases h : name = resourcesField
    · rw [if_pos h, if_pos h, failure?_bind_return, failure?_resourceList]
    · rw [if_neg h, if_neg h, failure?_inner, innerObligations]

theorem failure?_rootFields (s : Scope) : ∀ children : List (String × Node),
    failure? (rootFields s children) =
      firstError s.registry (children.flatMap fun c => rootChildObligations c.1 c.2)
  | [] => rfl
  | (name, n) :: rest => by
    rw [rootFields, List.flatMap_cons, firstError_append, ← failure?_rootChild s name n,
      ← failure?_rootFields s rest]
    exact failure?_bind fun d => failure?_bind_return _

/-- The document of a tree fails as its first demand that is not met says. -/
theorem failure?_document (s : Scope) : ∀ root : Node,
    failure? (root.document s) = firstError s.registry root.obligations
  | .leaf v => by rw [document, obligations, Value.failure?_document]
  | .branch children => by rw [document, obligations, failure?_bind_return, failure?_rootFields]

/-- **When and how a document fails.** It fails if some demand is not met, and
then as the first of those in the order of the document says, under whatever
style. -/
theorem document_fails_iff (g : Registry) (root : Node) :
    (∀ style, (∃ e, root.document ⟨style, g⟩ = .error e) ↔ ∃ o ∈ root.obligations, ¬ o.isMet g) ∧
    (∀ style e, root.document ⟨style, g⟩ = .error e ↔
      ∃ before o after, root.obligations = before ++ o :: after ∧
        (∀ b ∈ before, b.isMet g) ∧ ¬ o.isMet g ∧ o.error = e) ∧
    (∀ style style' e, root.document ⟨style, g⟩ = .error e ↔ root.document ⟨style', g⟩ = .error e) := by
  have hfails : ∀ style e, root.document ⟨style, g⟩ = .error e ↔
      firstError g root.obligations = some e := fun style e => by
    rw [← failure?_eq_some_iff, failure?_document]
  refine ⟨fun style => ?_, fun style e => ?_, fun style style' e => ?_⟩
  · rw [← exists_firstError_iff]
    exact exists_congr (hfails style)
  · rw [hfails style, firstError_eq_some_iff]
  · rw [hfails style, hfails style']

end Node
end ResourceTemplate
