/-
# Drafts carry out the building of templates

A draft keeps its tree in cells and its registry as a mapping, and writes as
it goes. A template is a value that a step makes anew or not at all. As long
as the cells are definite and each resource stands under its own name
(`Sound`), the template that a draft holds does what the draft does: a step
comes to the same, and what the draft then holds is the template after the
step. So what holds of runs on templates holds of runs on drafts.

Key definitions: `Draft.Sound`.
Key theorems: `Draft.Sound.step_template`, `Draft.Sound.after`,
`Draft.Sound.run_template`, `Draft.Sound.declarations_template`.
-/
import ResourceTemplate.Proofs.Cell
import ResourceTemplate.Proofs.Draft.Log

namespace ResourceTemplate

namespace Cell

variable {c : Cell}

theorem Definite.edit (h : c.Definite) (e : Node.Edit) : (c.edit e).Definite := by
  cases e with
  | reach place => exact h.path (fun _ hd => Call.definite_apply _ hd) place
  | assign place v => exact h.path (fun _ hd => Call.definite_apply _ hd) place
  | dependsOn place refs => exact h.path (fun _ hd => Call.definite_apply _ hd) place
  | graft place scion => exact h.path (fun _ _ => definite_ofNode scion) place

theorem Definite.node_edit (h : c.Definite) (e : Node.Edit) : (c.edit e).node = c.node.edit e := by
  cases e with
  | reach place =>
    rw [Cell.edit, h.node_write, Call.edit, List.append_nil]
  | assign place v => exact h.node_write place (.assign v)
  | dependsOn place refs => exact h.node_write place (.dependsOn refs)
  | graft place scion =>
    rw [Cell.edit, h.node_overwrite, node_ofNode]
    rfl

end Cell

namespace Draft

/-- The cells are definite, and each resource stands under its own name. -/
structure Sound (d : Draft) : Prop where
  root : d.root.Definite
  keyed : ∀ e ∈ d.registry, e.1 = e.2.name

theorem sound_fresh (name : String) : Sound { name } where
  root := Cell.definite_fresh
  keyed _ he := absurd he List.not_mem_nil

variable {d : Draft}

/-! ### Declarations -/

theorem Sound.names_template (h : d.Sound) :
    d.template.registry.resources.map (·.name) = Entries.names d.registry := by
  rw [template, List.map_map, Entries.names]
  exact List.map_congr_left fun e he => (h.keyed e he).symm

theorem Sound.insert_template (h : d.Sound) (r : Resource) :
    d.template.registry.insert r =
      if r.name ∈ Entries.names d.registry then .error (.duplicateResource r.name)
      else .ok (d.registered r).template.registry := by
  by_cases hm : r.name ∈ Entries.names d.registry
  · rw [if_pos hm]
    rw [← h.names_template] at hm
    obtain ⟨other, hother⟩ : ∃ other, d.template.registry.find? r.name = some other :=
      Option.ne_none_iff_exists'.1 (mt Registry.find?_eq_none_iff.1 (not_not_intro hm))
    rw [Registry.insert, hother]
  · rw [if_neg hm]
    rw [← h.names_template] at hm
    refine Registry.insert_eq_ok_iff.2 ⟨Registry.find?_eq_none_iff.2 hm, ?_⟩
    exact congrArg Registry.mk List.map_append

theorem Sound.registered (h : d.Sound) (r : Resource) : (d.registered r).Sound where
  root := by
    rw [root_registered]
    exact h.root.assignAll r.writes
  keyed := List.forall_mem_append.2 ⟨h.keyed, List.forall_mem_singleton.2 rfl⟩

/-- The attributes of a resource are written one after the other. -/
theorem seed_eq_foldl (r : Resource) (n : Node) :
    Template.seed r n = r.writes.foldl (fun n w => n.assign w.1 w.2) n := by
  rw [Template.seed, Resource.writes]
  cases r.apiVersion? <;> rfl

theorem Sound.root_template_registered (h : d.Sound) (r : Resource) :
    (d.registered r).template.root = Template.seed r d.template.root := by
  rw [seed_eq_foldl, template, root_registered]
  exact h.root.node_assignAll r.writes

theorem Sound.add_template (h : d.Sound) (r : Resource) :
    d.template.add r = ((declare r).exec d).1.map fun _ => ((declare r).exec d).2.template := by
  rw [Template.add, h.insert_template, exec_declare]
  by_cases hm : r.name ∈ Entries.names d.registry
  · rw [if_pos hm, if_pos hm]
    rfl
  · rw [if_neg hm, if_neg hm, ← h.root_template_registered]
    rfl

/-! ### All steps -/

/-- **A draft does what its template does.** A step on the template gives what
the draft then holds, or fails as it does on the draft. -/
theorem Sound.step_template (h : d.Sound) (s : Template.Step) :
    d.template.step s = (d.outcome s).map fun _ => (d.after s).template := by
  rw [outcome, after]
  cases s with
  | declare name providerType => exact h.add_template { name, providerType }
  | declareKind kind name =>
    rw [exec_declareKind, Template.step, Template.declareKind, Catalog.lookup, resource?,
      Template.resource?]
    cases d.template.catalog.kinds.get? kind with
    | none => rfl
    | some known => exact h.add_template _
  | restyle style => rfl
  | recatalog catalog => rfl
  | openResources =>
    have hroot : (d.root.write [] (.child resourcesField)).node = d.root.node.reach [resourcesField] :=
      h.root.node_write [] (.child resourcesField)
    exact congrArg (fun root => Except.ok { d.template with root }) hroot.symm
  | edit e => exact congrArg (fun root => Except.ok { d.template with root }) (h.root.node_edit e).symm

theorem Sound.exec_declare (h : d.Sound) (r : Resource) : ((declare r).exec d).2.Sound := by
  rcases exec_declare_cases d r with ⟨e, hexec⟩ | ⟨-, hexec⟩
  · rw [hexec]
    exact h
  · rw [hexec]
    exact h.registered r

theorem Sound.after (h : d.Sound) (s : Template.Step) : (d.after s).Sound := by
  rw [Draft.after]
  cases s with
  | declare name providerType => exact h.exec_declare _
  | declareKind kind name =>
    rw [exec_declareKind]
    cases d.resource? (.declareKind kind name) with
    | none => exact h
    | some r => exact h.exec_declare r
  | restyle style => exact ⟨h.root, h.keyed⟩
  | recatalog catalog => exact ⟨h.root, h.keyed⟩
  | openResources =>
    have hroot : (d.root.write [] (.child resourcesField)).Definite :=
      h.root.path (fun _ hc => Cell.Call.definite_apply (.child resourcesField) hc) []
    exact ⟨hroot, h.keyed⟩
  | edit e => exact ⟨h.root.edit e, h.keyed⟩

theorem Sound.attempt_template (h : d.Sound) (s : Template.Step) :
    d.template.attempt s = (d.after s).template := by
  rw [Template.attempt, h.step_template]
  cases ho : d.outcome s with
  | ok _ => rfl
  | error e => rw [after_of_error ho]; rfl

/-! ### A whole run -/

/-- **The template after a run** is the one that the draft holds after it. -/
theorem Sound.run_template (h : d.Sound) (steps : List Template.Step) :
    d.template.run steps = (d.run steps).template := by
  induction steps generalizing d with
  | nil => rfl
  | cons s steps ih => rw [Template.run_cons, h.attempt_template, ih (h.after s), run_cons]

theorem run_fresh_template (name : String) (steps : List Template.Step) :
    Template.run { name } steps = (run { name } steps).template :=
  (sound_fresh name).run_template steps

/-- No two resources of a run have one name. -/
theorem distinct_run (name : String) (steps : List Template.Step) :
    (run { name } steps).template.registry.Distinct := by
  rw [← run_fresh_template]
  exact Template.distinct_run Registry.distinct_empty steps

theorem Sound.run (h : d.Sound) (steps : List Template.Step) : (d.run steps).Sound := by
  induction steps generalizing d with
  | nil => exact h
  | cons s steps ih => exact ih (h.after s)

theorem Sound.declared?_template (h : d.Sound) (s : Template.Step) :
    d.template.declared? s = d.declared? s := by
  rw [Template.declared?, h.step_template, declared?, resource?]
  cases d.outcome s <;> rfl

/-- What is declared on the way is the same. -/
theorem Sound.declarations_template (h : d.Sound) (steps : List Template.Step) :
    d.template.declarations steps = d.declarations steps := by
  induction steps generalizing d with
  | nil => rfl
  | cons s steps ih =>
    rw [Template.declarations, declarations, h.declared?_template, h.attempt_template, ih (h.after s)]

end Draft
end ResourceTemplate
