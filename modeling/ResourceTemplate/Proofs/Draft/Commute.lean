/-
# Independent steps may be done in either order

A write of a leaf and a declaration both come down to values assigned at
paths (`after_of_targets`): a write to its own path, a declaration to the type
and, if it has one, to the version of its resource. Steps are independent if
no path of one goes on from a path of the other. Independent declarations have
different names, as a name has one path for its type; so neither makes the
other fail, and the order makes no difference but to the order of siblings
and of the registry.

Key definitions: `Draft.writes`, `Template.Step.targets?`,
`Template.Step.Independent`.
Key theorems: `Draft.after_of_targets`, `Draft.outcome_after_independent`,
`Draft.independent_steps_commute`.
-/
import ResourceTemplate.Proofs.Cell.Reading
import ResourceTemplate.Proofs.Draft.Log

namespace ResourceTemplate

open Node (Apart)
open Template (typePath versionPath)

/-- The paths that a write of a leaf or a declaration assigns values at. -/
def Template.Step.targets? : Step → Option (List (List String))
  | .edit (.assign place _) => some [place]
  | .edit (.dependsOn place _) => some [place ++ ["depends_on"]]
  | .declare name _ => some [typePath name]
  | .declareKind kind name => some [typePath (nameOfKind kind name), versionPath (nameOfKind kind name)]
  | _ => none

/-- Whether two steps are writes of leaves or declarations none of whose paths
goes on from one of the other's. -/
def Template.Step.Independent (s₁ s₂ : Step) : Prop :=
  ∃ ps ∈ s₁.targets?, ∃ qs ∈ s₂.targets?, ∀ p ∈ ps, ∀ q ∈ qs, Apart p q

theorem Template.Step.Independent.symm {s₁ s₂ : Step} (h : s₁.Independent s₂) : s₂.Independent s₁ := by
  obtain ⟨ps, hps, qs, hqs, hapart⟩ := h
  exact ⟨qs, hqs, ps, hps, fun q hq p hp => (hapart p hp q hq).symm⟩

/-- The value of a write of a leaf, at its path. -/
def Template.Step.leaf? : Step → Option (List String × Value)
  | .edit (.assign place v) => some (place, v)
  | .edit (.dependsOn place refs) => some (place ++ ["depends_on"], .dependsOn refs)
  | _ => none

theorem Template.Step.targets?_cases {s : Step} {ps : List (List String)} (h : s.targets? = some ps) :
    (∃ place v, s = .edit (.assign place v) ∧ ps = [place]) ∨
    (∃ place refs, s = .edit (.dependsOn place refs) ∧ ps = [place ++ ["depends_on"]]) ∨
    (∃ name providerType, s = .declare name providerType ∧ ps = [typePath name]) ∨
    ∃ kind name, s = .declareKind kind name ∧
      ps = [typePath (nameOfKind kind name), versionPath (nameOfKind kind name)] := by
  cases s with
  | declare name providerType => exact .inr (.inr (.inl ⟨name, providerType, rfl, (Option.some.inj h).symm⟩))
  | declareKind kind name => exact .inr (.inr (.inr ⟨kind, name, rfl, (Option.some.inj h).symm⟩))
  | restyle style => exact absurd h (by simp [targets?])
  | recatalog catalog => exact absurd h (by simp [targets?])
  | openResources => exact absurd h (by simp [targets?])
  | edit e =>
    cases e with
    | reach place => exact absurd h (by simp [targets?])
    | graft place scion => exact absurd h (by simp [targets?])
    | assign place v => exact .inl ⟨place, v, rfl, (Option.some.inj h).symm⟩
    | dependsOn place refs => exact .inr (.inl ⟨place, refs, rfl, (Option.some.inj h).symm⟩)

namespace Draft

/-- The values that a step assigns, at their paths. -/
def writes (d : Draft) (s : Template.Step) : List (List String × Value) :=
  s.leaf?.toList ++ (d.declared? s).toList.flatMap Resource.writes

/-- The draft with a resource, if any, registered last and values assigned. -/
def recorded (d : Draft) (r? : Option Resource) (ws : List (List String × Value)) : Draft :=
  { d with registry := d.registry ++ entries r?.toList, root := d.root.assignAll ws }

theorem recorded_none (d : Draft) (ws : List (List String × Value)) :
    d.recorded none ws = { d with root := d.root.assignAll ws } :=
  congrArg (fun registry => { d with registry, root := d.root.assignAll ws }) (List.append_nil d.registry)

theorem recorded_some (d : Draft) (r : Resource) : d.recorded (some r) r.writes = d.registered r := by
  rw [recorded, ← root_registered]
  rfl

variable {d : Draft} {s s₁ s₂ : Template.Step} {r : Resource} {name : String} {ps : List (List String)}

/-! ### What a step assigns -/

theorem after_of_resource (h : d.resource? s = some r) (hleaf : s.leaf? = none) :
    d.after s = d.recorded (d.declared? s) (d.writes s) := by
  rw [writes, hleaf, declared?, outcome, after, exec_of_resource h]
  rcases exec_declare_cases d r with ⟨e, hexec⟩ | ⟨-, hexec⟩
  · rw [hexec]
    exact (recorded_none d []).symm
  · rw [hexec, h, Option.toList_none, List.nil_append, Option.toList_some, List.flatMap_singleton,
      recorded_some]

/-- Writes of leaves and declarations assign values and register resources. -/
theorem after_of_targets (h : s.targets? = some ps) : d.after s = d.recorded (d.declared? s) (d.writes s) := by
  rcases Template.Step.targets?_cases h with
    ⟨place, v, rfl, -⟩ | ⟨place, refs, rfl, -⟩ | ⟨name, providerType, rfl, -⟩ | ⟨kind, name, rfl, -⟩
  · exact (recorded_none d [(place, v)]).symm
  · have hroot : d.root.assignAll [(place ++ ["depends_on"], .dependsOn refs)] =
        d.root.edit (.dependsOn place refs) := Cell.path_append place ["depends_on"] _ d.root
    refine Eq.trans ?_ (recorded_none d [(place ++ ["depends_on"], .dependsOn refs)]).symm
    rw [hroot]
    rfl
  · exact after_of_resource rfl rfl
  · cases hr : d.resource? (.declareKind kind name) with
    | some r => exact after_of_resource hr rfl
    | none =>
      rw [writes, declared?, outcome, after, exec_declareKind, hr]
      exact (recorded_none d []).symm

/-- The paths of a declaration are those of its resource. -/
theorem mem_targets_of_resource (h : d.resource? s = some r) (hs : s.targets? = some ps) :
    ∀ w ∈ r.writes, w.1 ∈ ps := by
  rcases Template.resource?_cases h with ⟨name, providerType, rfl, rfl⟩ | ⟨kind, name, known, rfl, -, rfl⟩
  · obtain rfl := Option.some.inj hs
    simp [Resource.writes]
  · obtain rfl := Option.some.inj hs
    simp [Resource.writes]

/-- A step assigns at its paths. -/
theorem mem_targets_of_writes (hs : s.targets? = some ps) : ∀ w ∈ d.writes s, w.1 ∈ ps := by
  intro w hw
  rcases List.mem_append.1 hw with hw | hw
  · rcases Template.Step.targets?_cases hs with
      ⟨place, v, rfl, rfl⟩ | ⟨place, refs, rfl, rfl⟩ | ⟨name, providerType, rfl, -⟩ | ⟨kind, name, rfl, -⟩
    · obtain rfl := List.mem_singleton.1 hw
      exact List.mem_singleton_self _
    · obtain rfl := List.mem_singleton.1 hw
      exact List.mem_singleton_self _
    · exact absurd hw List.not_mem_nil
    · exact absurd hw List.not_mem_nil
  · obtain ⟨r, hr, hw⟩ := List.mem_flatMap.1 hw
    exact mem_targets_of_resource (declared?_eq_some_iff.1 (Option.mem_toList.1 hr)).2 hs w hw

/-! ### What a step does to an independent one -/

/-- A declaration does not declare the name of an independent one. -/
theorem name_ne_of_independent (h : s₁.Independent s₂) (hs : ∀ ps ∈ s₁.targets?, typePath name ∈ ps)
    (hr : d.declared? s₂ = some r) : r.name ≠ name := by
  rintro rfl
  obtain ⟨ps, hps, qs, hqs, hapart⟩ := h
  have hq : typePath r.name ∈ qs :=
    mem_targets_of_resource (declared?_eq_some_iff.1 hr).2 hqs (typePath r.name, .str r.providerType)
      List.mem_cons_self
  exact (hapart _ (hs ps hps) _ hq).1 List.prefix_rfl

theorem mem_names_after_independent (h : s₁.Independent s₂) (hs : ∀ ps ∈ s₁.targets?, typePath name ∈ ps) :
    name ∈ Entries.names (d.after s₂).registry ↔ name ∈ Entries.names d.registry := by
  rw [registry_after, Entries.names, List.map_append, List.mem_append]
  refine or_iff_left fun hmem => ?_
  cases hr : d.declared? s₂ with
  | none =>
    rw [hr] at hmem
    exact absurd hmem List.not_mem_nil
  | some r =>
    rw [hr] at hmem
    exact name_ne_of_independent h hs hr (List.mem_singleton.1 hmem).symm

theorem catalog_after_independent (h : s₁.Independent s₂) : (d.after s₂).catalog = d.catalog := by
  obtain ⟨-, -, qs, hqs, -⟩ := h
  rw [after_of_targets hqs, recorded]

/-- **A step comes to the same before and after an independent one.** -/
theorem outcome_after_independent (h : s₁.Independent s₂) : (d.after s₂).outcome s₁ = d.outcome s₁ := by
  cases s₁ with
  | declare name providerType =>
    have hmem : name ∈ Entries.names (d.after s₂).registry ↔ name ∈ Entries.names d.registry :=
      mem_names_after_independent h fun ps hps => by
        obtain rfl := Option.some.inj hps
        exact List.mem_singleton_self _
    rw [outcome_declare, outcome_declare, if_congr hmem rfl rfl]
  | declareKind kind name =>
    have hmem : Template.nameOfKind kind name ∈ Entries.names (d.after s₂).registry ↔
        Template.nameOfKind kind name ∈ Entries.names d.registry :=
      mem_names_after_independent h fun ps hps => by
        obtain rfl := Option.some.inj hps
        exact List.mem_cons_self
    rw [outcome_declareKind, outcome_declareKind, catalog_after_independent h, if_congr hmem rfl rfl]
  | restyle style => rfl
  | recatalog catalog => rfl
  | openResources => rfl
  | edit e => rfl

theorem declared?_after_independent (h : s₁.Independent s₂) : (d.after s₂).declared? s₁ = d.declared? s₁ := by
  have hcatalog : (d.after s₂).template.catalog = d.template.catalog := catalog_after_independent h
  have hresource : (d.after s₂).resource? s₁ = d.resource? s₁ := by
    cases s₁ with
    | declareKind kind name => rw [resource?, resource?, Template.resource?, Template.resource?, hcatalog]
    | declare name providerType => rfl
    | restyle style => rfl
    | recatalog catalog => rfl
    | openResources => rfl
    | edit e => rfl
  rw [declared?, declared?, outcome_after_independent h, hresource]

theorem writes_after_independent (h : s₁.Independent s₂) : (d.after s₂).writes s₁ = d.writes s₁ := by
  rw [writes, writes, declared?_after_independent h]

/-- What two independent steps leave. -/
theorem after_after_independent (h : s₁.Independent s₂) :
    (d.after s₁).after s₂ = (d.recorded (d.declared? s₁) (d.writes s₁)).recorded (d.declared? s₂) (d.writes s₂) := by
  obtain ⟨ps, hps, qs, hqs, -⟩ := h.symm
  rw [after_of_targets hps, declared?_after_independent h.symm, writes_after_independent h.symm,
    after_of_targets hqs]

theorem declared?_of_write (h : s.write?.isSome) : d.declared? s = none := by
  cases hd : d.declared? s with
  | none => rfl
  | some r =>
    obtain ⟨e, he⟩ := Option.isSome_iff_exists.1 h
    have hr : d.template.resource? s = some r := (declared?_eq_some_iff.1 hd).2
    rw [Template.resource?_of_write he] at hr
    exact absurd hr (by simp)

/-- **Independent steps commute.** Each of them comes to the same whether it
is done first or second. The registries are the same up to the order of
entries, which differs at most if both steps are declarations, and the trees
say the same on each path: they are the same up to the order of siblings.
Nothing else differs. -/
theorem independent_steps_commute (d : Draft) {s₁ s₂ : Template.Step} (h : s₁.Independent s₂) :
    let d₁₂ := (d.after s₁).after s₂
    let d₂₁ := (d.after s₂).after s₁
    (d.after s₂).outcome s₁ = d.outcome s₁ ∧
    (d.after s₁).outcome s₂ = d.outcome s₂ ∧
    d₁₂.registry.Perm d₂₁.registry ∧
    (s₁.write?.isSome ∨ s₂.write?.isSome → d₁₂.registry = d₂₁.registry) ∧
    d₁₂.root.reading = d₂₁.root.reading ∧
    (d.root.Made → d₁₂.root.Rearranged d₂₁.root) ∧
    d₁₂ = { d₂₁ with registry := d₁₂.registry, root := d₁₂.root } := by
  intro d₁₂ d₂₁
  have h₁₂ : d₁₂ = (d.recorded (d.declared? s₁) (d.writes s₁)).recorded (d.declared? s₂) (d.writes s₂) :=
    after_after_independent h
  have h₂₁ : d₂₁ = (d.recorded (d.declared? s₂) (d.writes s₂)).recorded (d.declared? s₁) (d.writes s₁) :=
    after_after_independent h.symm
  have hreading : d₁₂.root.reading = d₂₁.root.reading := by
    obtain ⟨ps, hps, qs, hqs, hapart⟩ := h
    rw [h₁₂, h₂₁]
    refine Cell.reading_assignAll_comm (fun w hw u hu => ?_) d.root
    exact hapart _ (mem_targets_of_writes hps w hw) _ (mem_targets_of_writes hqs u hu)
  refine ⟨?_, ?_, ?_, ?_, ?_, ?_, ?_⟩
  · exact outcome_after_independent h
  · exact outcome_after_independent h.symm
  · rw [h₁₂, h₂₁, recorded, recorded, recorded, recorded, List.append_assoc, List.append_assoc]
    exact List.Perm.append_left d.registry List.perm_append_comm
  · intro hwrite
    rw [h₁₂, h₂₁, recorded, recorded, recorded, recorded]
    rcases hwrite with hwrite | hwrite
    · rw [declared?_of_write hwrite]
      simp [entries]
    · rw [declared?_of_write hwrite]
      simp [entries]
  · exact hreading
  · intro hmade
    have hmade₁₂ : d₁₂.root.Made := by
      rw [h₁₂]
      exact (hmade.assignAll _).assignAll _
    have hmade₂₁ : d₂₁.root.Made := by
      rw [h₂₁]
      exact (hmade.assignAll _).assignAll _
    exact (Cell.rearranged_iff hmade₁₂ hmade₂₁).2 hreading
  · rw [h₁₂, h₂₁]
    rfl

/-- A reference to a resource may be written before the resource is declared
or after it, even where both turn a leaf into the branch of the resources;
only the siblings have another order. -/
theorem independent_steps_commute_forward :
    let d := run { name := "site" } [.edit (.assign [resourcesField] (.str "none"))]
    let refers : Template.Step := .edit (.dependsOn [resourcesField, "web"] [.toResource "db"])
    let declares : Template.Step := .declare "db" "Microsoft.Sql/servers"
    let d₁₂ := (d.after refers).after declares
    let d₂₁ := (d.after declares).after refers
    refers.Independent declares ∧ d.root.Made ∧
    d₁₂.root.reading [resourcesField, "web", "depends_on"] =
      some (some (.dependsOn [.toResource "db"])) ∧
    d₁₂.registry = d₂₁.registry ∧ d₁₂.root.Rearranged d₂₁.root ∧
    (d₁₂.root.child? resourcesField).map (fun c => Entries.names c.children) = some ["web", "db"] ∧
    (d₂₁.root.child? resourcesField).map (fun c => Entries.names c.children) = some ["db", "web"] := by
  intro d refers declares d₁₂ d₂₁
  have hindependent : refers.Independent declares := ⟨_, rfl, _, rfl, by decide⟩
  have hmade : d.root.Made := made_run .fresh fun place scion h => absurd h (by simp)
  obtain ⟨-, -, -, hregistry, -, hrearranged, -⟩ := independent_steps_commute d hindependent
  exact ⟨hindependent, hmade, rfl, hregistry (.inl rfl), hrearranged hmade, rfl, rfl⟩

end Draft
end ResourceTemplate
