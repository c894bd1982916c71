/-
# What is resolved stays resolved

A step adds to the registry at its end or leaves it alone. So the registry
after further steps declares what it declared before, as the same resources,
and a tree that has a document in some style keeps this very document
whatever is declared later, be it the tree of the draft or any other.

Key theorems: `Draft.registry_template_run`, `Draft.extends_run`,
`Draft.resolved_stays_resolved`.
-/
import ResourceTemplate.Expr.Intrinsic
import ResourceTemplate.Proofs.Draft.Refinement
import ResourceTemplate.Proofs.Node.Lookups

namespace ResourceTemplate
namespace Draft

/-- Steps add what they declare at the end of the registry. -/
theorem registry_template_run (d : Draft) (steps : List Template.Step) :
    (d.run steps).template.registry = ⟨d.template.registry.resources ++ d.declarations steps⟩ := by
  have hvalues : (entries (d.declarations steps)).map (·.2) = d.declarations steps := by
    rw [entries, List.map_map]
    exact List.map_id _
  have hresources : (d.run steps).registry.map (·.2) = d.registry.map (·.2) ++ d.declarations steps := by
    rw [registry_run, List.map_append, hvalues]
  exact congrArg Registry.mk hresources

theorem extends_run (d : Draft) (steps : List Template.Step) :
    (d.run steps).template.registry.Extends d.template.registry := by
  rw [registry_template_run]
  exact d.template.registry.extends_append (d.declarations steps)

/-- **What is resolved stays resolved.** After any steps from a fresh draft
let a tree have a document in some style. After any further steps it has the
same document in that style. What the registry holds is told apart by names,
and two such registries of the same resources give every tree the same
document in every style, or the same failure, in whatever order they were
declared. -/
theorem resolved_stays_resolved (name : String) (steps more : List Template.Step) :
    let d := run { name } steps
    (∀ style (root : Node) doc, root.document ⟨style, d.template.registry⟩ = .ok doc →
      root.document ⟨style, (d.run more).template.registry⟩ = .ok doc) ∧
    d.template.registry.Distinct ∧
    ∀ g g' : Registry, g.Distinct → g.resources.Perm g'.resources →
      ∀ style (root : Node), root.document ⟨style, g'⟩ = root.document ⟨style, g⟩ := by
  intro d
  refine ⟨?_, ?_, ?_⟩
  · intro style root doc h
    have hext : (d.run more).template.registry.Extends d.template.registry := d.extends_run more
    exact Node.document_extended hext h
  · exact distinct_run name steps
  · intro g g' hg hperm style root
    exact Node.document_reordered hg hperm root

/-- A tree that needs the database and shows its identifier. -/
def needy : Node := .branch [
  ("depends_on", .leaf (.dependsOn [.toResource "main_db"])),
  ("db_id", .leaf (.expr (Intrinsic.resourceId [.resource "main_db"])))]

/-- The database is declared again in vain, among other declarations; the
tree keeps its document, and fails the same in either order of two resources
that it does not need. -/
theorem resolved_stays_resolved_needy :
    let d := run { name := "site" } [.declare "main_db" "Sql/servers"]
    let more : List Template.Step := [
      .declare "main_db" "Sql/databases", .restyle .verbatim, .declareKind "virtual_machines" "web"]
    let doc : Document := .object [
      ("dependsOn", .list [.str "Sql/servers/mainDb"]),
      ("dbId", .str "[resourceId('Sql/servers', 'mainDb')]")]
    let site : Resource := { name := "site", providerType := "Web/sites" }
    let log : Resource := { name := "log", providerType := "Web/logs" }
    needy.document ⟨.standard, d.template.registry⟩ = .ok doc ∧
    (d.run more).template.registry ≠ d.template.registry ∧
    needy.document ⟨.standard, (d.run more).template.registry⟩ = .ok doc ∧
    Registry.Distinct ⟨[site, log]⟩ ∧ [site, log].Perm [log, site] ∧
    needy.document ⟨.standard, ⟨[site, log]⟩⟩ = .error (.notFound "main_db" .dependsOn) ∧
    needy.document ⟨.standard, ⟨[log, site]⟩⟩ = .error (.notFound "main_db" .dependsOn) := by
  intro d more doc site log
  obtain ⟨hstays, -, hreordered⟩ := resolved_stays_resolved "site" [.declare "main_db" "Sql/servers"] more
  have hregistry : d.template.registry = ⟨[{ name := "main_db", providerType := "Sql/servers" }]⟩ := rfl
  have hbefore : needy.document ⟨.standard, d.template.registry⟩ = .ok doc := by
    rw [hregistry]
    rfl
  have hdistinct : Registry.Distinct ⟨[site, log]⟩ := by
    show ["site", "log"].Nodup
    decide
  have hperm : [site, log].Perm [log, site] := List.Perm.swap log site []
  have hfails : needy.document ⟨.standard, ⟨[site, log]⟩⟩ = .error (.notFound "main_db" .dependsOn) := rfl
  refine ⟨hbefore, by decide, hstays _ _ _ hbefore, hdistinct, hperm, hfails, ?_⟩
  rw [hreordered _ _ hdistinct hperm, hfails]

end Draft
end ResourceTemplate
