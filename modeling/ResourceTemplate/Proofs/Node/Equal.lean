/-
# Equal trees have equal documents

Trees are equal without regard to the order of children and of the names in a
mapping. Their documents are made in order: the first failure is the answer,
and where children are spelled alike the last one stays. So equal trees need
not have equal documents, unless the style tells siblings apart (`ToldApart`):
then no child writes over another, an object has one field for each child, and
where the child stands only decides where the field does. The order of the
resources decides in addition where they stand in their list.

The argument goes level by level, from the leaves up. Children of equal
branches are paired by their names; paired children have parts that are alike,
and parts that are alike are collected into objects whose fields are paired
(`Document.collected_alike`).

Key definitions: `Node.isToldApart`, `Node.ToldApart`.
Key theorems: `Node.inner_alike`, `Node.document_alike`,
`Cell.equal_trees_have_equal_documents`.
-/
import ResourceTemplate.Proofs.Cell
import ResourceTemplate.Proofs.Node.Listed
import ResourceTemplate.Proofs.Node.Resolved
import ResourceTemplate.Proofs.Node.Structure
import ResourceTemplate.Proofs.Value.Equal

namespace ResourceTemplate

open Outcome

namespace Node

/-! ### Siblings that a style tells apart -/

mutual
/-- Whether a style tells apart the children of each branch, in a tree below
the root. -/
def isToldApart (style : KeyStyle) : Node → Bool
  | .leaf _ => true
  | .branch children =>
    decide (children.map fun c => style.spell c.1).Nodup && childrenToldApart style children
termination_by structural n => n

/-- Whether a style tells apart the children of each branch below children. -/
def childrenToldApart (style : KeyStyle) : List (String × Node) → Bool
  | [] => true
  | (_, n) :: rest => n.isToldApart style && childrenToldApart style rest
termination_by structural children => children
end

theorem childrenToldApart_iff {style : KeyStyle} {children : List (String × Node)} :
    childrenToldApart style children ↔ ∀ c ∈ children, c.2.isToldApart style := by
  induction children with
  | nil => simp [childrenToldApart]
  | cons c rest ih => rw [childrenToldApart, Bool.and_eq_true, ih, List.forall_mem_cons]

theorem isToldApart_branch {style : KeyStyle} {children : List (String × Node)} :
    (branch children).isToldApart style ↔ (children.map fun c => style.spell c.1).Nodup ∧
      ∀ c ∈ children, c.2.isToldApart style := by
  rw [isToldApart, Bool.and_eq_true, decide_eq_true_iff, childrenToldApart_iff]

/-- Whether a style tells siblings apart everywhere in a tree. The fields of a
resource are told apart together with the name that it gets; a field that is
called so has no part in this, nor has what is below it. -/
structure ToldApart (style : KeyStyle) (root : Node) : Prop extends SpelledApart style root where
  inner : ∀ c ∈ root.children, c.1 ≠ resourcesField → c.2.isToldApart style
  below : ∀ n ∈ root.child? resourcesField, ∀ c ∈ n.children, ∀ f ∈ c.2.children,
    f.1 ≠ nameField → f.2.isToldApart style

theorem toldApart_iff {style : KeyStyle} {root : Node} : ToldApart style root ↔
    SpelledApart style root ∧ (∀ c ∈ root.children, c.1 ≠ resourcesField → c.2.isToldApart style) ∧
      ∀ n ∈ root.child? resourcesField, ∀ c ∈ n.children, ∀ f ∈ c.2.children,
        f.1 ≠ nameField → f.2.isToldApart style := by
  constructor
  · intro h
    exact ⟨h.toSpelledApart, h.inner, h.below⟩
  · rintro ⟨hspelled, hinner, hbelow⟩
    exact ToldApart.mk hspelled hinner hbelow

instance (style : KeyStyle) (root : Node) : Decidable (ToldApart style root) :=
  decidable_of_iff _ toldApart_iff.symm

/-! ### Children of equal branches -/

theorem get?_of_sameUnder {others : List (String × Node)} : ∀ {children : List (String × Node)},
    Node.sameUnder others children →
      ∀ c ∈ children, ∃ n, Entries.get? others c.1 = some n ∧ c.2.same n
  | [], _ => fun _ hc => absurd hc List.not_mem_nil
  | (name, m) :: rest, h => by
    obtain ⟨hfirst, hrest⟩ := (Bool.and_eq_true _ _).mp h
    rw [List.forall_mem_cons]
    refine ⟨?_, get?_of_sameUnder hrest⟩
    cases hn : Entries.get? others name with
    | none =>
      rw [hn] at hfirst
      exact Bool.noConfusion hfirst
    | some n =>
      rw [hn] at hfirst
      exact ⟨n, rfl, hfirst⟩

/-- Children of equal branches are paired, in any way in which equal children
belong together. -/
theorem paired_of_same {R : String → Node → Node → Prop} {children others : List (String × Node)}
    (hnames : (Entries.names children).Nodup) (h : (branch children).same (branch others))
    (hR : ∀ c ∈ children, ∀ n, c.2.same n → R c.1 c.2 n) : Entries.Paired R children others := by
  obtain ⟨hlength, hunder⟩ := (Bool.and_eq_true _ _).mp h
  refine Entries.paired_of_get? hnames (beq_iff_eq.1 hlength) fun c hc => ?_
  obtain ⟨n, hn, hsame⟩ := get?_of_sameUnder hunder c hc
  exact ⟨n, hn, hR c hc n hsame⟩

theorem mem_leaves_of_mem {children : List (String × Node)} {c : String × Node} {v : Value}
    (hc : c ∈ children) (hv : v ∈ c.2.leaves) : v ∈ (branch children).leaves := by
  show v ∈ leavesOf children
  induction children with
  | nil => exact absurd hc List.not_mem_nil
  | cons c' rest ih =>
    rw [leavesOf, List.mem_append]
    rcases List.mem_cons.1 hc with rfl | hc
    · exact .inl hv
    · exact .inr (ih hc)

/-! ### Documents of equal nodes -/

variable {s : Scope} {m n : Node}

/-- Below the root equal nodes have documents that differ in the order of
fields only, or both have none. -/
theorem inner_alike (hd : m.Distinct) (hexact : ∀ v ∈ m.leaves, v.passes Value.isExact)
    (hapart : m.isToldApart s.style) (h : m.same n) :
    Alike Document.Rearranged (m.inner s) (n.inner s) := by
  induction hd generalizing n with
  | leaf v =>
    cases n with
    | leaf w => exact Value.document_alike (hexact v (List.mem_singleton_self v)) h
    | branch others => exact Bool.noConfusion h
  | @branch children hnames _ ih =>
    cases n with
    | leaf w => exact Bool.noConfusion h
    | branch others =>
      obtain ⟨hspelled, hbelow⟩ := isToldApart_branch.1 hapart
      have hchildren : Entries.Paired (fun _ m n => Alike Document.Rearranged (inner s m) (inner s n))
          children others :=
        paired_of_same hnames h fun c hc n hsame =>
          ih c hc (fun v hv => hexact v (mem_leaves_of_mem hc hv)) (hbelow c hc) hsame
      have hparts : Entries.Paired (fun _ => Alike Document.Rearranged) (innerParts s children)
          (innerParts s others) :=
        hchildren.map s.style.spell (fun _ m => inner s m) (fun _ n => inner s n) fun _ _ _ hmn => hmn
      have hkeys : (Entries.names (innerParts s children)).Nodup := by
        rw [names_innerParts]
        exact hspelled
      rw [inner_branch, inner_branch]
      refine (Document.collected_alike hkeys hparts).mono ?_
      rintro _ _ ⟨fields, fields', rfl, rfl, hfields⟩
      exact Document.rearranged_object_iff.2 hfields

/-- Equal nodes have such documents as resources too, under one name. -/
theorem resourceDocument_alike (name : String) (hd : m.Distinct) (hexact : ∀ v ∈ m.leaves, v.passes Value.isExact)
    (hkeys : (resourceKeys s.style m).Nodup)
    (hbelow : ∀ f ∈ m.children, f.1 ≠ nameField → f.2.isToldApart s.style) (h : m.same n) :
    Alike Document.Rearranged (m.resourceDocument s name) (n.resourceDocument s name) := by
  cases m with
  | leaf v =>
    cases n with
    | leaf w => exact .error _ _
    | branch others => exact Bool.noConfusion h
  | branch children =>
    cases n with
    | leaf w => exact Bool.noConfusion h
    | branch others =>
      have hchildren : Entries.Paired
          (fun name m n => name ≠ nameField → Alike Document.Rearranged (inner s m) (inner s n))
          children others :=
        paired_of_same hd.nodup_names h fun c hc n hsame hname =>
          inner_alike (hd.of_mem_children c hc) (fun v hv => hexact v (mem_leaves_of_mem hc hv))
            (hbelow c hc hname) hsame
      have hfields : Entries.Paired (fun _ => Alike Document.Rearranged)
          (innerParts s (children.filter fun c => c.1 != nameField))
          (innerParts s (others.filter fun c => c.1 != nameField)) :=
        (hchildren.filter fun name => name != nameField).map s.style.spell (fun _ m => inner s m)
          (fun _ n => inner s n) fun _ _ _ hmn => hmn.2 (bne_iff_ne.1 hmn.1)
      have hparts : Entries.Paired (fun _ => Alike Document.Rearranged) (resourceParts s name children)
          (resourceParts s name others) :=
        hfields.cons (.ok (.same _))
      have hnames : (Entries.names (resourceParts s name children)).Nodup := by
        rw [resourceParts, Entries.names_cons, names_innerParts]
        exact hkeys
      rw [resourceDocument_branch, resourceDocument_branch]
      refine (Document.collected_alike hnames hparts).mono ?_
      rintro _ _ ⟨fields, fields', rfl, rfl, hfields⟩
      exact Document.rearranged_object_iff.2 hfields

/-! ### The list of resources -/

/-- The items of the list are what is gathered from the entries, under their
own names. -/
theorem resourceList_eq_gather (entries : List (String × Node)) :
    resourceList s entries = (do
      let items ← Entries.gather (entries.map fun e => (e.1, e.2.resourceDocument s e.1))
      return items.map (·.2)) := by
  induction entries with
  | nil => rfl
  | cons e rest ih =>
    rw [resourceList, ih, List.map_cons, Entries.gather]
    cases e.2.resourceDocument s e.1 with
    | error err => rfl
    | ok d =>
      cases Entries.gather (rest.map fun e => (e.1, e.2.resourceDocument s e.1)) with
      | error err => rfl
      | ok items => rfl

theorem child?_of_mem {children : List (String × Node)} {c : String × Node}
    (hd : (branch children).Distinct) (hc : c ∈ children) : (branch children).child? c.1 = some c.2 := by
  have hnodup : (Entries.names children).Nodup := hd.nodup_names
  have hget : Entries.get? (Entries.ofList children) c.1 = some c.2 := Entries.get?_ofList_of_nodup hnodup hc
  rwa [Entries.ofList_of_nodup hnodup] at hget

/-- Paired resources are listed as the same items, up to the order of the items
and of the fields in them. -/
theorem resourceList_alike {entries others : List (String × Node)}
    (h : Entries.Paired (fun name m n => Alike Document.Rearranged (resourceDocument s name m)
      (resourceDocument s name n)) entries others) :
    Alike (fun items items' => ∃ among, List.Forall₂ Document.Rearranged items among ∧ among.Perm items')
      (resourceList s entries) (resourceList s others) := by
  have hitems : Entries.Paired (fun _ => Alike Document.Rearranged)
      (entries.map fun e => (e.1, e.2.resourceDocument s e.1))
      (others.map fun e => (e.1, e.2.resourceDocument s e.1)) :=
    h.map id (fun name m => resourceDocument s name m) (fun name n => resourceDocument s name n)
      fun _ _ _ hmn => hmn
  rw [resourceList_eq_gather, resourceList_eq_gather]
  refine hitems.gather.bind fun items items' _ _ hpaired => ?_
  exact .ok hpaired.values

/-- Equal collections of resources give lists of the same items up to their
order, and to the order of the fields in them. -/
theorem rootChild_resources_alike {root : Node} (hroot : root.child? resourcesField = some m)
    (hd : m.Distinct) (hexact : ∀ v ∈ m.leaves, v.passes Value.isExact) (hapart : root.ToldApart s.style)
    (h : m.same n) :
    Alike (fun d d' => d.Rearranged d' ∨ d.Shuffled d') (m.rootChild s resourcesField)
      (n.rootChild s resourcesField) := by
  cases m with
  | leaf v =>
    cases n with
    | leaf w => exact (Value.document_alike (hexact v (List.mem_singleton_self v)) h).mono fun _ _ => .inl
    | branch others => exact Bool.noConfusion h
  | branch entries =>
    cases n with
    | leaf w => exact Bool.noConfusion h
    | branch others =>
      have hentries : Entries.Paired
          (fun name m n => Alike Document.Rearranged (resourceDocument s name m) (resourceDocument s name n))
          entries others :=
        paired_of_same hd.nodup_names h fun c hc n hsame =>
          resourceDocument_alike c.1 (hd.of_mem_children c hc)
            (fun v hv => hexact v (mem_leaves_of_mem hc hv)) (hapart.fields _ hroot c hc)
            (hapart.below _ hroot c hc) hsame
      rw [rootChild, rootChild, if_pos rfl, if_pos rfl]
      refine (resourceList_alike hentries).bind fun items items' _ _ hshuffled => ?_
      obtain ⟨among, hamong, hperm⟩ := hshuffled
      exact .ok (.inr ⟨items, among, items', rfl, rfl, hamong, hperm⟩)

/-- **Equal trees have documents that differ in order only**, or both have
none. -/
theorem document_alike (hd : m.Distinct) (hexact : ∀ v ∈ m.leaves, v.passes Value.isExact)
    (hapart : m.ToldApart s.style) (h : m.same n) :
    Alike (Document.Reordered (s.style.spell resourcesField)) (m.document s) (n.document s) := by
  cases m with
  | leaf v =>
    cases n with
    | leaf w => exact (Value.document_alike (hexact v (List.mem_singleton_self v)) h).mono fun _ _ => .rearranged
    | branch others => exact Bool.noConfusion h
  | branch children =>
    cases n with
    | leaf w => exact Bool.noConfusion h
    | branch others =>
      have hchildren : Entries.Paired
          (fun name m n => Alike (fun d d' => d.Rearranged d' ∨ name = resourcesField ∧ d.Shuffled d')
            (rootChild s name m) (rootChild s name n)) children others := by
        refine paired_of_same hd.nodup_names h fun c hc n hsame => ?_
        have hcd : c.2.Distinct := hd.of_mem_children c hc
        have hcexact : ∀ v ∈ c.2.leaves, v.passes Value.isExact := fun v hv =>
          hexact v (mem_leaves_of_mem hc hv)
        by_cases hname : c.1 = resourcesField
        · have hroot : (branch children).child? resourcesField = some c.2 := hname ▸ child?_of_mem hd hc
          rw [hname]
          exact (rootChild_resources_alike hroot hcd hcexact hapart hsame).mono fun _ _ hdd' =>
            hdd'.imp_right fun hshuffled => ⟨rfl, hshuffled⟩
        · rw [rootChild_eq_inner hname, rootChild_eq_inner hname]
          exact (inner_alike hcd hcexact (hapart.inner c hc hname) hsame).mono fun _ _ => .inl
      have hparts : Entries.Paired
          (fun key => Alike fun d d' => d.Rearranged d' ∨ key = s.style.spell resourcesField ∧ d.Shuffled d')
          (rootParts s children) (rootParts s others) :=
        hchildren.map s.style.spell (fun name m => rootChild s name m) (fun name n => rootChild s name n)
          fun name _ _ hmn => hmn.mono fun _ _ hdd' => hdd'.imp_right fun hshuffled =>
            ⟨congrArg s.style.spell hshuffled.1, hshuffled.2⟩
      have hkeys : (Entries.names (rootParts s children)).Nodup := by
        rw [names_rootParts]
        exact hapart.children
      rw [document_branch, document_branch]
      refine (Document.collected_alike hkeys hparts).mono ?_
      rintro _ _ ⟨fields, fields', rfl, rfl, hfields⟩
      exact .object hfields

end Node

namespace Cell

/-- **Equal trees have equal documents.** Let two trees that calls made be
equal, their order apart. Let the values of one hold no floating-point numbers
and no mapping with a name twice, which none has that is made from entries,
and let the style tell its siblings apart. Then both trees have a document or
none has, and the two documents differ in the order of the fields of objects
and of the resources in their list only. -/
theorem equal_trees_have_equal_documents {a b : Cell} (ha : a.Made) (hb : b.Made) (s : Scope)
    (hexact : ∀ v ∈ a.node.leaves, v.passes Value.isExact) (hapart : a.node.ToldApart s.style) (h : a.same b) :
    ((∃ d, a.node.document s = .ok d) ↔ ∃ d, b.node.document s = .ok d) ∧
    ∀ d d', a.node.document s = .ok d → b.node.document s = .ok d' →
      d.Reordered (s.style.spell resourcesField) d' := by
  have hnodes : a.node.same b.node := by rwa [Definite.same_node ha.definite hb.definite]
  have halike := Node.document_alike ha.distinct hexact hapart hnodes
  constructor
  · exact halike.eq_ok_iff
  · intro d d' hd hd'
    exact halike.related hd hd'

/-- A tree that needs one of its resources for another. -/
def forwards : Cell := fresh.assignAll [
  (["tags"], .map [("cost_center", .int 7), ("env", .str "dev")]),
  (["resources", "web_app", "type"], .str "Web/sites"),
  (["resources", "web_app", "name"], .str "front"),
  (["resources", "main_db", "type"], .str "Sql/servers"),
  (["resources", "main_db", "depends_on"], .dependsOn [.toResource "web_app"])]

/-- The same tree, written in the opposite order. -/
def backwards : Cell := fresh.assignAll [
  (["resources", "main_db", "depends_on"], .dependsOn [.toResource "web_app"]),
  (["resources", "main_db", "type"], .str "Sql/servers"),
  (["resources", "web_app", "name"], .str "front"),
  (["resources", "web_app", "type"], .str "Web/sites"),
  (["tags"], .map [("env", .str "dev"), ("cost_center", .int 7)])]

/-- The fields and the resources come in the opposite order, and both trees
fail if the resource that they need is not declared. -/
theorem equal_trees_forwards_backwards :
    let site : Resource := { name := "web_app", providerType := "Web/sites" }
    let declared : Scope := ⟨.standard, ⟨[site]⟩⟩
    let web : List (String × Document) := [("name", .str "webApp"), ("type", .str "Web/sites")]
    let needs : Document := .list [.str "Web/sites/webApp"]
    let doc : Document := .object [
      ("tags", .object [("cost_center", .int 7), ("env", .str "dev")]),
      ("resources", .list [.object web,
        .object [("name", .str "mainDb"), ("type", .str "Sql/servers"), ("dependsOn", needs)]])]
    let doc' : Document := .object [
      ("resources", .list [
        .object [("name", .str "mainDb"), ("dependsOn", needs), ("type", .str "Sql/servers")], .object web]),
      ("tags", .object [("env", .str "dev"), ("cost_center", .int 7)])]
    forwards.Made ∧ backwards.Made ∧ forwards.same backwards ∧
    (∀ v ∈ forwards.node.leaves, v.passes Value.isExact) ∧ forwards.node.ToldApart .standard ∧
    forwards.node.document declared = .ok doc ∧ backwards.node.document declared = .ok doc' ∧
    doc.Reordered "resources" doc' ∧
    (∀ d, forwards.node.document ⟨.standard, ⟨[]⟩⟩ ≠ .ok d) ∧
    ∀ d, backwards.node.document ⟨.standard, ⟨[]⟩⟩ ≠ .ok d := by
  intro site declared web needs doc doc'
  have hforwards : forwards.Made := .assignAll .fresh _
  have hbackwards : backwards.Made := .assignAll .fresh _
  have hsame : forwards.same backwards := by decide
  have hexact : ∀ v ∈ forwards.node.leaves, v.passes Value.isExact := by decide
  have hapart : forwards.node.ToldApart .standard := by decide
  have hdoc : forwards.node.document declared = .ok doc := by
    dsimp only [declared, site]
    rfl
  have hdoc' : backwards.node.document declared = .ok doc' := by
    dsimp only [declared, site]
    rfl
  have hfails : forwards.node.document ⟨.standard, ⟨[]⟩⟩ = .error (.notFound "web_app" .dependsOn) := rfl
  obtain ⟨-, hreordered⟩ := equal_trees_have_equal_documents hforwards hbackwards declared hexact hapart hsame
  obtain ⟨hboth, -⟩ :=
    equal_trees_have_equal_documents hforwards hbackwards ⟨.standard, ⟨[]⟩⟩ hexact hapart hsame
  have hnone : ∀ d, forwards.node.document ⟨.standard, ⟨[]⟩⟩ ≠ .ok d := by
    intro d hd
    rw [hfails] at hd
    exact absurd hd (by simp)
  refine ⟨hforwards, hbackwards, hsame, hexact, hapart, hdoc, hdoc', hreordered _ _ hdoc hdoc', hnone, ?_⟩
  intro d hd
  obtain ⟨d', hd'⟩ := hboth.2 ⟨d, hd⟩
  exact hnone d' hd'

end Cell
end ResourceTemplate
