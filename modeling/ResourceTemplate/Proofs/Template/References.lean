/-
# References and the document agree

A template knows its declared resources twice: the registry, which resolves
references, and the branches of the tree, which the document lists. A
declaration makes them agree, as it writes the type of the resource into its
branch (`Typed`). The caller may write to the tree too, and they still agree
after a run in which no write concerns the type of a resource once it is
declared (`SparesTypes`). The names cannot disagree, for both spell the
name of the declaration in the style of the moment. So whatever refers to a
declared resource refers to an item of the document.

Key definitions: `Template.Typed`, `Template.SparesTypes`.
Key theorems: `Template.typed_run`, `Template.references_agree_with_document`,
`Template.dependencies_agree_with_document`.
-/
import ResourceTemplate.Proofs.Node.Frame
import ResourceTemplate.Proofs.Node.Listed
import ResourceTemplate.Proofs.Template.Run
import ResourceTemplate.Proofs.Value.Document

namespace ResourceTemplate
namespace Template

open Outcome Node

/-! ### What a declaration writes -/

/-- The path of a resource's type. -/
def typePath (name : String) : List String := resourcePath name ++ [typeField]

/-- The path of the version of a resource's provider. -/
def versionPath (name : String) : List String := resourcePath name ++ ["api_version"]

theorem apart_of_resources {name other : String} (h : name ≠ other) (p q : List String) :
    Apart (resourcePath name ++ p) (resourcePath other ++ q) :=
  apart_cons.2 (apart_of_ne h p q)

theorem apart_version_type (name : String) : Apart (versionPath name) (typePath name) :=
  apart_cons.2 (apart_cons.2 (apart_of_ne (by decide) [] []))

/-- Away from the attributes that a declaration writes the tree reads as
before. -/
theorem at?_seed_of_apart {r : Resource} {q : List String} (htype : Apart (typePath r.name) q)
    (hversion : Apart (versionPath r.name) q) (n : Node) : (seed r n).at? q = n.at? q := by
  have htyped : (n.set (resourcePath r.name) "type" (.str r.providerType)).at? q = n.at? q :=
    at?_update_of_apart htype n
  rw [seed]
  cases r.apiVersion? with
  | none => exact htyped
  | some version => exact (at?_update_of_apart hversion _).trans htyped

theorem at?_seed_type (r : Resource) (n : Node) :
    (seed r n).at? (typePath r.name) = some (.leaf (.str r.providerType)) := by
  have htyped : (n.set (resourcePath r.name) "type" (.str r.providerType)).at? (typePath r.name) =
      some (.leaf (.str r.providerType)) := at?_update_self _ n
  rw [seed]
  cases r.apiVersion? with
  | none => exact htyped
  | some version => exact (at?_update_of_apart (apart_version_type r.name) _).trans htyped

/-! ### The types stay -/

/-- The branch of each declared resource holds its provider type. -/
def Typed (t : Template) : Prop :=
  ∀ r ∈ t.registry.resources, t.root.at? (typePath r.name) = some (.leaf (.str r.providerType))

/-- Whether a step leaves the types of the declared resources alone. -/
def Step.SparesTypes (g : Registry) (s : Step) : Prop :=
  ∀ e ∈ s.write?, ∀ r ∈ g.resources, e.Spares (typePath r.name)

/-- Whether each step of a run leaves the types of the resources alone that
are declared by then. -/
def SparesTypes (t : Template) : List Step → Prop
  | [] => True
  | s :: steps => s.SparesTypes t.registry ∧ SparesTypes (t.attempt s) steps

instance (g : Registry) (s : Step) : Decidable (s.SparesTypes g) :=
  inferInstanceAs (Decidable (∀ e ∈ s.write?, _))

instance decidableSparesTypes : (t : Template) → (steps : List Step) → Decidable (t.SparesTypes steps)
  | _, [] => inferInstanceAs (Decidable True)
  | t, s :: steps =>
    have : Decidable ((t.attempt s).SparesTypes steps) := decidableSparesTypes (t.attempt s) steps
    inferInstanceAs (Decidable (_ ∧ _))

theorem typed_attempt {t : Template} {s : Step} (ht : t.Typed) (hs : s.SparesTypes t.registry) :
    (t.attempt s).Typed := by
  rcases attempt_cases t s with ⟨-, h⟩ | ⟨r, g, -, hg, h⟩ | ⟨-, e, he, h⟩ | ⟨-, style, h⟩ | ⟨-, catalog, h⟩
  · rw [h]; exact ht
  · obtain ⟨hnew, rfl⟩ := Registry.insert_eq_ok_iff.1 hg
    rw [h]
    intro r' hr'
    rcases List.mem_append.1 hr' with hr' | hr'
    · have hne : r.name ≠ r'.name := fun hname =>
        Registry.find?_eq_none_iff.1 hnew (List.mem_map.2 ⟨r', hr', hname.symm⟩)
      have hframe : (seed r t.root).at? (typePath r'.name) = t.root.at? (typePath r'.name) :=
        at?_seed_of_apart (apart_of_resources hne _ _) (apart_of_resources hne _ _) t.root
      exact hframe.trans (ht r' hr')
    · obtain rfl := List.mem_singleton.1 hr'
      exact at?_seed_type r' t.root
  · rw [h]
    intro r hr
    exact at?_edit_of_spares (hs e he r hr) (ht r hr)
  · rw [h]; exact ht
  · rw [h]; exact ht

theorem typed_run {t : Template} (ht : t.Typed) {steps : List Step} (hs : t.SparesTypes steps) :
    (t.run steps).Typed := by
  induction steps generalizing t with
  | nil => exact ht
  | cons s steps ih => exact ih (typed_attempt ht hs.1) hs.2

/-! ### What references stand for -/

theorem mem_registry_run {t : Template} {steps : List Step} {r : Resource} (hr : r ∈ t.declarations steps) :
    r ∈ (t.run steps).registry.resources := by
  rw [registry_run]
  exact List.mem_append_right _ hr

theorem value_declared {s : Scope} (hs : s.registry.Distinct) {r : Resource}
    (hr : r ∈ s.registry.resources) (requester : Requester) :
    (Value.ref (.declared r.name requester)).document s = .ok (.str (r.qualified s.style)) :=
  Value.document_declared_eq_ok_iff.2 ⟨r, hs.find?_eq_some hr, rfl⟩

/-- A list of dependencies on declared resources becomes the list of their
types and names. -/
theorem dependencies_declared {s : Scope} (hs : s.registry.Distinct) {rs : List Resource}
    (hrs : ∀ r ∈ rs, r ∈ s.registry.resources) :
    (Value.dependsOn (rs.map fun r => .toResource r.name)).document s =
      .ok (.list (rs.map fun r => .str (r.qualified s.style))) := by
  refine Value.document_dependsOn_eq_ok_iff.2 ⟨rs.map (·.qualified s.style), by rw [List.map_map]; rfl, ?_⟩
  rw [List.map_map, List.map_map]
  refine List.map_congr_left fun r hr => ?_
  change (Reference.declared r.name .dependsOn).text s = .ok (r.qualified s.style)
  rw [Reference.text, hs.resolve_eq_ok (hrs r hr)]
  rfl

theorem argument_declared {s : Scope} (hs : s.registry.Distinct) {r : Resource}
    (hr : r ∈ s.registry.resources) (function : String) :
    (Arg.resource r.name).text s function =
      .ok [Text.quote r.providerType, Text.quote (r.rendered s.style)] := by
  rw [Arg.text, hs.resolve_eq_ok hr]
  rfl

/-- What a run declared is listed in the document, if there is one. -/
theorem lists_declared {name : String} {steps : List Step} (hspares : SparesTypes { name } steps)
    (hapart : SpelledApart (run { name } steps).style (run { name } steps).root) {d : Document}
    (hd : (run { name } steps).document = .ok d) {r : Resource} (hr : r ∈ declarations { name } steps) :
    d.Lists (run { name } steps).style ((run { name } steps).style.spell r.name) r.providerType := by
  have htyped : (run { name } steps).Typed := typed_run (fun r hr => absurd hr List.not_mem_nil) hspares
  exact lists_of_typed (htyped r (mem_registry_run hr)) hapart hd

/-- **References agree with the document.** In a run on a fresh template let
no write concern the type of a resource that is declared by then, and let the
style tell apart the names it has to. If the template then has a document, a
resource that the run declared is listed in it by its type and its name in
the style of the moment; a reference to it as a value is this type and this
name, and as an argument the two literals of them. -/
theorem references_agree_with_document (name : String) {steps : List Step}
    (hspares : SparesTypes { name } steps)
    (hapart : SpelledApart (run { name } steps).style (run { name } steps).root) {d : Document}
    (hd : (run { name } steps).document = .ok d) {r : Resource}
    (hr : r ∈ declarations { name } steps) :
    let t := run { name } steps
    let rendered := t.style.spell r.name
    (∀ requester, (Value.ref (.declared r.name requester)).document t.scope =
      .ok (.str (r.providerType ++ "/" ++ rendered))) ∧
    (∀ function, (Arg.resource r.name).text t.scope function =
      .ok [Text.quote r.providerType, Text.quote rendered]) ∧
    d.Lists t.style rendered r.providerType := by
  intro t rendered
  have hdistinct : t.registry.Distinct := distinct_run Registry.distinct_empty steps
  have hmem : r ∈ t.registry.resources := mem_registry_run hr
  refine ⟨?_, ?_, ?_⟩
  · exact value_declared hdistinct hmem
  · exact argument_declared hdistinct hmem
  · exact lists_declared hspares hapart hd hr

/-- A run that refers to a machine before it declares it, declares one name
twice and changes the style in the end. -/
def forwardRun : List Step := [
  .edit (.dependsOn [resourcesField, "db"] [.toResource "web_virtual_machines"]),
  .declare "db" "Microsoft.Sql/servers",
  .declareKind "virtual_machines" "web",
  .declare "db" "Microsoft.Sql/databases",
  .edit (.assign [resourcesField, "db", "location"] (.str "westeurope")),
  .restyle { initial := .upper }]

/-- The machine is listed under the name that the dependency has. -/
theorem references_agree_forwardRun :
    let t := run { name := "site" } forwardRun
    let d : Document := .object [("Resources", .list [
      .object [("Name", .str "Db"),
        ("DependsOn", .list [.str "Microsoft.Compute/virtualMachines/WebVirtualMachines"]),
        ("Type", .str "Microsoft.Sql/servers"), ("Location", .str "westeurope")],
      .object [("Name", .str "WebVirtualMachines"), ("Type", .str "Microsoft.Compute/virtualMachines"),
        ("ApiVersion", .str "2015-06-15")]])]
    SparesTypes { name := "site" } forwardRun ∧ SpelledApart t.style t.root ∧ t.document = .ok d ∧
      (Value.ref (.declared "web_virtual_machines" .dependsOn)).document t.scope =
        .ok (.str "Microsoft.Compute/virtualMachines/WebVirtualMachines") ∧
      (Arg.resource "web_virtual_machines").text t.scope "resourceId" =
        .ok [Text.quote "Microsoft.Compute/virtualMachines", Text.quote "WebVirtualMachines"] ∧
      d.Lists t.style "WebVirtualMachines" "Microsoft.Compute/virtualMachines" := by
  intro t d
  have hspares : SparesTypes { name := "site" } forwardRun := by decide
  have hapart : SpelledApart t.style t.root := by decide
  have hd : t.document = .ok d := rfl
  have hr : ⟨"web_virtual_machines", "Microsoft.Compute/virtualMachines", some "2015-06-15"⟩ ∈
      declarations { name := "site" } forwardRun := by decide
  obtain ⟨hvalue, hargument, hlists⟩ := references_agree_with_document "site" hspares hapart hd hr
  exact ⟨hspares, hapart, hd, hvalue .dependsOn, hargument "resourceId", hlists⟩

/-- **Dependencies agree with the document.** In such a run a list of
dependencies on resources that the run declared becomes the list of the types
and the names by which the document lists them. -/
theorem dependencies_agree_with_document (name : String) {steps : List Step}
    (hspares : SparesTypes { name } steps)
    (hapart : SpelledApart (run { name } steps).style (run { name } steps).root) {d : Document}
    (hd : (run { name } steps).document = .ok d) {rs : List Resource}
    (hrs : ∀ r ∈ rs, r ∈ declarations { name } steps) :
    let t := run { name } steps
    (Value.dependsOn (rs.map fun r => .toResource r.name)).document t.scope =
      .ok (.list (rs.map fun r => .str (r.providerType ++ "/" ++ t.style.spell r.name))) ∧
    ∀ r ∈ rs, d.Lists t.style (t.style.spell r.name) r.providerType := by
  intro t
  have hdistinct : t.registry.Distinct := distinct_run Registry.distinct_empty steps
  have hmem : ∀ r ∈ rs, r ∈ t.scope.registry.resources := fun r hr => mem_registry_run (hrs r hr)
  refine ⟨dependencies_declared hdistinct hmem, fun r hr => ?_⟩
  exact lists_declared hspares hapart hd (hrs r hr)

end Template
end ResourceTemplate
