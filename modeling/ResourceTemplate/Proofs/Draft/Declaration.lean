/-
# What a declaration adds to a draft

A declaration asks for the resources, in them for the branch of its resource,
and assigns the attributes of the resource there. What it finds on its way may
be missing, a leaf or a branch with anything below, and even an attribute may
be a branch. In each case it leaves the three nodes as branches, the attributes
as leaves, and all else as it was: the caller may have written attributes of
the resource before, and they stay. What was there keeps its place among its
siblings, and what is new comes last (`Draft.Adds`).

A declaration gives access to the branch that it has written to. That this is
the branch of the resource is said by what comes of doing something to it: the
same as declaring the resource and doing it to the branch at the resource's
path (`Draft.exec_performThen`).

Key definitions: `Resource.fields`, `Draft.Adds`.
Key theorems: `Draft.names_seed`, `Draft.exec_performThen`,
`Draft.adds_of_declared`, `Draft.declaration_changes_its_paths_only`.
-/
import ResourceTemplate.Proofs.Cell.Frame
import ResourceTemplate.Proofs.Draft.Refinement

namespace ResourceTemplate

open Node (Apart)
open Template (resourcePath typePath versionPath nameOfKind)

namespace Resource

/-- The names of the attributes that a declaration writes, in order. -/
def fields (r : Resource) : List String := typeField :: (r.apiVersion?.map fun _ => "api_version").toList

theorem path_of_mem_writes {r : Resource} {w : List String × Value} (h : w ∈ r.writes) :
    ∃ field ∈ r.fields, w.1 = resourcePath r.name ++ [field] := by
  rw [writes, List.mem_cons] at h
  rcases h with rfl | h
  · exact ⟨typeField, List.mem_cons_self, rfl⟩
  · cases hr : r.apiVersion? with
    | none => simp [hr] at h
    | some version =>
      obtain rfl : w = (versionPath r.name, .str version) := by simpa [hr] using h
      exact ⟨"api_version", by simp [fields, hr], rfl⟩

theorem writes_apart (r : Resource) : r.writes.Pairwise fun u w => Apart u.1 w.1 := by
  rw [writes]
  cases r.apiVersion? with
  | none => exact List.pairwise_singleton _ _
  | some version => simpa using (Template.apart_version_type r.name).symm

/-- Another attribute of a resource is away from those that are written. -/
theorem apart_of_not_mem_fields {r : Resource} {field : String} (h : field ∉ r.fields) (below : List String) :
    ∀ w ∈ r.writes, Apart w.1 (resourcePath r.name ++ field :: below) := by
  intro w hw
  obtain ⟨written, hwritten, hpath⟩ := path_of_mem_writes hw
  have hne : written ≠ field := fun heq => h (heq ▸ hwritten)
  rw [hpath]
  exact Node.apart_cons.2 (Node.apart_cons.2 (Node.apart_of_ne hne [] below))

end Resource

namespace Draft

variable {d : Draft} {s : Template.Step} {r : Resource}

/-! ### The branch of the resource -/

theorem isBranch_seed (r : Resource) (c : Cell) : (seed r c).isBranch := by
  rw [seed]
  cases r.apiVersion? with
  | none => rfl
  | some version => rfl

/-- Attributes that are there keep their places, and new ones come last. -/
theorem names_seed (r : Resource) (c : Cell) :
    Entries.names (seed r c).children = r.fields.foldl Entries.withName (Entries.names c.children) := by
  have htype : Entries.names (c.set "type" (.str r.providerType)).children =
      Entries.withName (Entries.names c.children) typeField := Entries.names_alter_eq_withName _ _ _
  rw [seed, Resource.fields]
  cases r.apiVersion? with
  | none => exact htype
  | some version =>
    have hversion : ∀ typed : Cell, Entries.names (typed.set "api_version" (.str version)).children =
        Entries.withName (Entries.names typed.children) "api_version" :=
      fun typed => Entries.names_alter_eq_withName _ _ _
    dsimp only
    rw [hversion, htype]
    rfl

/-- A declaration writes to the branch at the path of its resource. -/
theorem root_registered_path (d : Draft) (r : Resource) :
    (d.registered r).root = d.root.path (resourcePath r.name) (seed r) := rfl

/-! ### What a declaration gives access to -/

/-- A step that asks for no resource gives access to nothing. -/
theorem exec_performThen_of_resource_eq_none (f : Cell → Cell) (h : d.resource? s = none) :
    (performThen f s).exec d = (perform s).exec d := by
  cases s with
  | declare name providerType => exact absurd h (Option.some_ne_none _)
  | declareKind kind name => rw [exec_performThen_declareKind, exec_declareKind, h]
  | restyle style => rfl
  | recatalog catalog => rfl
  | openResources => rfl
  | edit e => rfl

/-- A resource that is asked for is declared if and only if its name is new. -/
theorem declared?_of_resource (h : d.resource? s = some r) :
    d.declared? s = if r.name ∈ Entries.names d.registry then none else some r := by
  rw [declared?, outcome, exec_of_resource h, fst_exec_declare]
  by_cases hmem : r.name ∈ Entries.names d.registry
  · rw [if_pos hmem, if_pos hmem]
  · rw [if_neg hmem, if_neg hmem, h]

/-- What is done to the branch while it is seeded may be done afterwards. -/
theorem path_registered (f : Cell → Cell) (d : Draft) (r : Resource) :
    (d.registered r).root.path (resourcePath r.name) f =
      d.root.path (resourcePath r.name) fun branch => f (seed r branch) := by
  rw [root_registered_path, Cell.path_path]

/-- **A declaration gives access to the branch of its resource.** A step that
declares nothing does what it does by itself. -/
theorem exec_performThen (f : Cell → Cell) (d : Draft) (s : Template.Step) :
    (performThen f s).exec d =
      match d.declared? s with
      | some r => (.ok (), { d.after s with root := (d.after s).root.path (resourcePath r.name) f })
      | none => (perform s).exec d := by
  cases hr : d.resource? s with
  | none =>
    have hnone : d.declared? s = none := by
      rw [declared?, hr]
      cases d.outcome s with
      | ok u => rfl
      | error e => rfl
    rw [hnone, exec_performThen_of_resource_eq_none f hr]
  | some r =>
    rw [exec_performThen_of_resource f hr, exec_declareThen, declared?_of_resource hr, after,
      exec_of_resource hr, exec_declare]
    by_cases h : r.name ∈ Entries.names d.registry
    · rw [if_pos h, if_pos h, if_pos h]
    · rw [if_neg h, if_neg h, if_neg h, ← path_registered]

/-! ### What a declaration does -/

/-- What a step that declares a resource does to a draft. -/
structure Adds (d : Draft) (s : Template.Step) (r : Resource) : Prop where
  /-- The type of the resource is a leaf, -/
  type : (d.after s).root.at? (typePath r.name) =
    some { value? := some (.str r.providerType), children := [] }
  /-- and so is the version, if it is known. -/
  version : ∀ version ∈ r.apiVersion?, (d.after s).root.at? (versionPath r.name) =
    some { value? := some (.str version), children := [] }
  /-- The root, the resources and the resource are branches. -/
  branches : ∀ p, p <+: resourcePath r.name → ∃ c, (d.after s).root.at? p = some c ∧ c.isBranch
  /-- Away from what is written the tree reads as before, -/
  elsewhere : ∀ q, (∀ w ∈ r.writes, Apart w.1 q) → (d.after s).root.at? q = d.root.at? q
  /-- and so do all other attributes of the resource, with what is below. -/
  attributes : ∀ field, field ∉ r.fields → ∀ below,
    (d.after s).root.at? (resourcePath r.name ++ field :: below) =
      d.root.at? (resourcePath r.name ++ field :: below)
  /-- What is new comes last, at the root, -/
  atRoot : (d.after s).root.namesAt [] = Entries.withName (d.root.namesAt []) resourcesField
  /-- among the resources -/
  amongResources : (d.after s).root.namesAt [resourcesField] =
    Entries.withName (d.root.namesAt [resourcesField]) r.name
  /-- and among the attributes. -/
  amongAttributes : (d.after s).root.namesAt (resourcePath r.name) =
    r.fields.foldl Entries.withName (d.root.namesAt (resourcePath r.name))
  /-- The branch of the resource is what the declaration gives access to. -/
  access : ∀ f, (performThen f s).exec d =
    (.ok (), { d.after s with root := (d.after s).root.path (resourcePath r.name) f })
  /-- The resource is registered last, and nothing else is changed. -/
  rest : d.after s = { d with registry := d.registry ++ [(r.name, r)], root := (d.after s).root }

/-- A step that declares a resource registers it. -/
theorem after_of_declared (h : d.declared? s = some r) : d.after s = d.registered r := by
  rcases after_cases d s with ⟨hnone, -⟩ | ⟨r', hr', -, hafter⟩
  · exact absurd (h.symm.trans hnone) (by simp)
  · obtain rfl := Option.some.inj (h.symm.trans hr')
    exact hafter

/-- The nodes on the way to a resource are branches. -/
theorem branches_registered (d : Draft) (r : Resource) {p : List String} (hp : p <+: resourcePath r.name) :
    ∃ c, (d.registered r).root.at? p = some c ∧ c.isBranch := by
  obtain ⟨rest, hrest⟩ := hp
  cases rest with
  | nil =>
    obtain rfl : p = resourcePath r.name := by simpa using hrest
    rw [root_registered_path, Cell.at?_path_self]
    exact ⟨_, rfl, isBranch_seed r _⟩
  | cons name rest =>
    obtain ⟨c, hc, hbranch, -⟩ := Cell.names_path_prefix p name rest (seed r) d.root
    rw [root_registered_path, ← hrest]
    exact ⟨c, hc, hbranch⟩

theorem adds_of_declared (hroot : d.root.Definite) (h : d.declared? s = some r) : d.Adds s r := by
  have hafter : d.after s = d.registered r := after_of_declared h
  have hwrites : (d.after s).root = d.root.assignAll r.writes := by rw [hafter, root_registered]
  have hpath : (d.after s).root = d.root.path (resourcePath r.name) (seed r) := by
    rw [hafter, root_registered_path]
  have helsewhere : ∀ q, (∀ w ∈ r.writes, Apart w.1 q) → (d.after s).root.at? q = d.root.at? q := by
    intro q hq
    rw [hwrites, hroot.at?_assignAll_of_apart hq]
  refine ⟨?_, ?_, ?_, helsewhere, ?_, ?_, ?_, ?_, ?_, ?_⟩
  · rw [hwrites]
    exact hroot.at?_assignAll_of_mem r.writes_apart (w := (typePath r.name, .str r.providerType))
      List.mem_cons_self
  · intro version hversion
    rw [hwrites]
    exact hroot.at?_assignAll_of_mem r.writes_apart (w := (versionPath r.name, .str version))
      (by simp [Resource.writes, Option.mem_def.1 hversion])
  · intro p hp
    rw [hafter]
    exact branches_registered d r hp
  · intro field hfield below
    exact helsewhere _ (Resource.apart_of_not_mem_fields hfield below)
  · rw [hpath]
    exact Cell.namesAt_path_prefix [] resourcesField [r.name] (seed r) d.root
  · rw [hpath]
    exact Cell.namesAt_path_prefix [resourcesField] r.name [] (seed r) d.root
  · rw [hpath, Cell.namesAt, Cell.at?_path_self, Option.getD_some, names_seed]
    rfl
  · intro f
    rw [exec_performThen, h]
  · rw [hafter]
    rfl

/-- **A declaration changes its own paths only.** After any steps from a fresh
draft let a resource be declared by its type, or by a kind, of which the
catalog of the moment gives the type and the version. Then its attributes are
there and all else is as before (`Adds`). -/
theorem declaration_changes_its_paths_only (name : String) (steps : List Template.Step) :
    let d := run { name } steps
    (∀ n providerType, d.outcome (.declare n providerType) = .ok () →
      d.Adds (.declare n providerType) { name := n, providerType }) ∧
    ∀ kind n, d.outcome (.declareKind kind n) = .ok () →
      ∃ known, d.catalog.lookup kind = .ok known ∧
        d.Adds (.declareKind kind n) ⟨nameOfKind kind n, known.providerType, some known.apiVersion⟩ := by
  intro d
  have hsound : d.Sound := (sound_fresh name).run steps
  refine ⟨fun n providerType h => ?_, fun kind n h => ?_⟩
  · have hdeclared : d.declared? (.declare n providerType) = some { name := n, providerType } :=
      declared?_eq_some_iff.2 ⟨h, rfl⟩
    exact adds_of_declared hsound.root hdeclared
  · obtain ⟨known, hknown, hdeclared⟩ := exists_known_of_outcome h
    exact ⟨known, Catalog.lookup_eq_ok.2 hknown, adds_of_declared hsound.root hdeclared⟩

/-- A run that writes to the branch of a database, a version and a branch below
the type among it, before the database is declared. -/
def prepared : List Template.Step := [
  .edit (.assign [resourcesField, "db", "api_version"] (.str "2014-04-01")),
  .edit (.assign [resourcesField, "db", "type", "old"] (.str "servers")),
  .edit (.assign [resourcesField, "db", "sku"] (.str "basic")),
  .edit (.assign ["outputs"] .null)]

/-- Declared by its type the database keeps the version and the rest; a machine
comes after it, with a version that the catalog gives. -/
theorem declaration_changes_its_paths_only_prepared :
    let d := run { name := "site" } prepared
    let declares : Template.Step := .declare "db" "Microsoft.Sql/servers"
    let machine : Template.Step := .declareKind "virtual_machines" "web"
    d.outcome declares = .ok () ∧ d.outcome machine = .ok () ∧
    (d.after declares).root.at? [resourcesField, "db", "type"] =
      some { value? := some (.str "Microsoft.Sql/servers"), children := [] } ∧
    (d.after declares).root.at? [resourcesField, "db", "api_version"] =
      some { value? := some (.str "2014-04-01"), children := [] } ∧
    (d.after declares).root.namesAt [resourcesField, "db"] = ["api_version", "type", "sku"] ∧
    (d.after machine).root.at? [resourcesField, "web_virtual_machines", "api_version"] =
      some { value? := some (.str "2015-06-15"), children := [] } ∧
    (d.after machine).root.namesAt [resourcesField] = ["db", "web_virtual_machines"] ∧
    (d.after machine).root.namesAt [resourcesField, "web_virtual_machines"] = ["type", "api_version"] := by
  intro d declares machine
  obtain ⟨hdeclare, hkind⟩ := declaration_changes_its_paths_only "site" prepared
  have hdb : d.outcome declares = .ok () := rfl
  have hweb : d.outcome machine = .ok () := rfl
  have hadds := hdeclare "db" "Microsoft.Sql/servers" hdb
  obtain ⟨known, hknown, haddsWeb⟩ := hkind "virtual_machines" "web" hweb
  obtain rfl : ⟨"Microsoft.Compute/virtualMachines", "2015-06-15"⟩ = known := Except.ok.inj hknown
  refine ⟨hdb, hweb, hadds.type, ?_, hadds.amongAttributes, haddsWeb.version _ rfl, haddsWeb.amongResources,
    haddsWeb.amongAttributes⟩
  exact hadds.attributes "api_version" (by decide) []

end Draft
end ResourceTemplate
