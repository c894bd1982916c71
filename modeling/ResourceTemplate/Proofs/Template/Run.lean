/-
# Runs of building steps

A step that fails changes nothing. One that succeeds registers a resource and
writes its attributes, or writes to the tree, or exchanges the key style or
the catalog (`step_cases`, `attempt_cases`); what is registered stays. So the registry after a
run holds the resources it held before and then those that the run declared,
in order, and no two of one name.

Key definitions: `Template.Step.write?`, `Template.resource?`,
`Template.declared?`, `Template.declarations`.
Key theorems: `Template.step_cases`, `Template.attempt_cases`,
`Template.registry_run`, `Template.distinct_run`.
-/
import ResourceTemplate.Proofs.Outcome
import ResourceTemplate.Proofs.Registry
import ResourceTemplate.Template

namespace ResourceTemplate

theorem Catalog.lookup_eq_ok {c : Catalog} {kind : String} {known : Kind} :
    c.lookup kind = .ok known ↔ c.kinds.get? kind = some known := by
  unfold lookup
  cases c.kinds.get? kind <;> simp

namespace Template

open Outcome

/-- The write to the tree that a step is. -/
def Step.write? : Step → Option Node.Edit
  | .openResources => some (.reach [resourcesField])
  | .edit e => some e
  | _ => none

/-- The resource that a step asks to declare; of a kind the catalog says what
it is. -/
def resource? (t : Template) : Step → Option Resource
  | .declare name providerType => some { name, providerType }
  | .declareKind kind name => (t.catalog.kinds.get? kind).map fun known => {
      name := nameOfKind kind name
      providerType := known.providerType
      apiVersion? := some known.apiVersion }
  | _ => none

/-- The resource that a step declares. -/
def declared? (t : Template) (s : Step) : Option Resource :=
  match t.step s with
  | .ok _ => t.resource? s
  | .error _ => none

/-- The resources that a run declares, in order. -/
def declarations (t : Template) : List Step → List Resource
  | [] => []
  | s :: steps => (t.declared? s).toList ++ declarations (t.attempt s) steps

/-! ### One step -/

variable {t t' : Template} {s : Step}

theorem add_eq_ok {r : Resource} : t.add r = .ok t' ↔
    ∃ g, t.registry.insert r = .ok g ∧ t' = { t with registry := g, root := seed r t.root } := by
  rw [add, bind_eq_ok]
  exact exists_congr fun g => and_congr_right fun _ => return_eq_ok.trans eq_comm

/-- What a step can do. -/
theorem step_cases (h : t.step s = .ok t') :
    (∃ r g, t.resource? s = some r ∧ t.registry.insert r = .ok g ∧
      t' = { t with registry := g, root := seed r t.root }) ∨
    (∃ e, s.write? = some e ∧ t' = { t with root := t.root.edit e }) ∨
    (∃ style, s = .restyle style ∧ t' = { t with style }) ∨
    ∃ catalog, s = .recatalog catalog ∧ t' = { t with catalog } := by
  cases s with
  | declare name providerType =>
    rw [step, declare, add_eq_ok] at h
    obtain ⟨g, hg, ht'⟩ := h
    exact .inl ⟨_, g, rfl, hg, ht'⟩
  | declareKind kind name =>
    rw [step, declareKind, bind_eq_ok] at h
    obtain ⟨known, hknown, h⟩ := h
    obtain ⟨g, hg, ht'⟩ := add_eq_ok.1 h
    rw [Catalog.lookup_eq_ok] at hknown
    exact .inl ⟨_, g, by rw [resource?, hknown, Option.map_some], hg, ht'⟩
  | restyle style => exact .inr (.inr (.inl ⟨style, rfl, (Except.ok.inj h).symm⟩))
  | recatalog catalog => exact .inr (.inr (.inr ⟨catalog, rfl, (Except.ok.inj h).symm⟩))
  | openResources => exact .inr (.inl ⟨_, rfl, (Except.ok.inj h).symm⟩)
  | edit e => exact .inr (.inl ⟨e, rfl, (Except.ok.inj h).symm⟩)

/-- Declarations ask for a resource, by provider type or by a known kind. -/
theorem resource?_cases {r : Resource} (h : t.resource? s = some r) :
    (∃ name providerType, s = .declare name providerType ∧ r = { name, providerType }) ∨
    ∃ kind name known, s = .declareKind kind name ∧ t.catalog.kinds.get? kind = some known ∧
      r = ⟨nameOfKind kind name, known.providerType, some known.apiVersion⟩ := by
  cases s with
  | declare name providerType => exact .inl ⟨name, providerType, rfl, (Option.some.inj h).symm⟩
  | declareKind kind name =>
    obtain ⟨known, hknown, hr⟩ := Option.map_eq_some_iff.1 h
    exact .inr ⟨kind, name, known, rfl, hknown, hr.symm⟩
  | restyle style => exact absurd h (by simp [resource?])
  | recatalog catalog => exact absurd h (by simp [resource?])
  | openResources => exact absurd h (by simp [resource?])
  | edit e => exact absurd h (by simp [resource?])

/-- A write declares nothing. -/
theorem resource?_of_write {e : Node.Edit} (h : s.write? = some e) : t.resource? s = none := by
  cases s with
  | openResources => rfl
  | edit e => rfl
  | declare name providerType => exact absurd h (by simp [Step.write?])
  | declareKind kind name => exact absurd h (by simp [Step.write?])
  | restyle style => rfl
  | recatalog catalog => rfl

/-- What a step that may fail can do, and which of it is a declaration. -/
theorem attempt_cases (t : Template) (s : Step) :
    (t.declared? s = none ∧ t.attempt s = t) ∨
    (∃ r g, t.declared? s = some r ∧ t.registry.insert r = .ok g ∧
      t.attempt s = { t with registry := g, root := seed r t.root }) ∨
    (t.declared? s = none ∧ ∃ e, s.write? = some e ∧ t.attempt s = { t with root := t.root.edit e }) ∨
    (t.declared? s = none ∧ ∃ style, t.attempt s = { t with style }) ∨
    t.declared? s = none ∧ ∃ catalog, t.attempt s = { t with catalog } := by
  cases h : t.step s with
  | error e => exact .inl ⟨by rw [declared?, h], by rw [attempt, h]⟩
  | ok t' =>
    have hattempt : t.attempt s = t' := by rw [attempt, h]
    have hdeclared : t.declared? s = t.resource? s := by rw [declared?, h]
    rw [hattempt, hdeclared]
    rcases step_cases h with ⟨r, g, hr, hg, ht'⟩ | ⟨e, he, ht'⟩ | ⟨style, rfl, ht'⟩ | ⟨catalog, rfl, ht'⟩
    · exact .inr (.inl ⟨r, g, hr, hg, ht'⟩)
    · exact .inr (.inr (.inl ⟨resource?_of_write he, e, he, ht'⟩))
    · exact .inr (.inr (.inr (.inl ⟨rfl, style, ht'⟩)))
    · exact .inr (.inr (.inr (.inr ⟨rfl, catalog, ht'⟩)))

theorem registry_attempt (t : Template) (s : Step) :
    (t.attempt s).registry.resources = t.registry.resources ++ (t.declared? s).toList := by
  rcases attempt_cases t s with ⟨hd, h⟩ | ⟨r, g, hd, hg, h⟩ | ⟨hd, e, -, h⟩ | ⟨hd, style, h⟩ | ⟨hd, catalog, h⟩
  · rw [h, hd, Option.toList_none, List.append_nil]
  · obtain ⟨-, rfl⟩ := Registry.insert_eq_ok_iff.1 hg
    rw [h, hd, Option.toList_some]
  · rw [h, hd, Option.toList_none, List.append_nil]
  · rw [h, hd, Option.toList_none, List.append_nil]
  · rw [h, hd, Option.toList_none, List.append_nil]

theorem distinct_attempt (ht : t.registry.Distinct) (s : Step) : (t.attempt s).registry.Distinct := by
  rcases attempt_cases t s with ⟨-, h⟩ | ⟨r, g, -, hg, h⟩ | ⟨-, e, -, h⟩ | ⟨-, style, h⟩ | ⟨-, catalog, h⟩
  · rw [h]; exact ht
  · rw [h]; exact ht.insert hg
  · rw [h]; exact ht
  · rw [h]; exact ht
  · rw [h]; exact ht

/-! ### A whole run -/

theorem run_cons (t : Template) (s : Step) (steps : List Step) :
    t.run (s :: steps) = (t.attempt s).run steps := rfl

/-- The registry is the log of the declarations. -/
theorem registry_run (t : Template) (steps : List Step) :
    (t.run steps).registry.resources = t.registry.resources ++ t.declarations steps := by
  induction steps generalizing t with
  | nil => exact (List.append_nil _).symm
  | cons s steps ih => rw [run_cons, ih, registry_attempt, declarations, List.append_assoc]

theorem distinct_run (ht : t.registry.Distinct) (steps : List Step) :
    (t.run steps).registry.Distinct := by
  induction steps generalizing t with
  | nil => exact ht
  | cons s steps ih => exact ih (distinct_attempt ht s)

end Template
end ResourceTemplate
