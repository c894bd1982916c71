/-
# What a building step leaves

A step on a draft fails and leaves the draft as it is, or registers a resource
under a new name, or does not touch the registry (`exec_cases`). Only a
declaration fails, and for two reasons, an unknown kind and a name that is
taken; it finds both out before it writes (`exec_declareThen`,
`exec_performThen_declareKind`).

Key definitions: `Resource.writes`, `Draft.registered`, `Draft.resource?`.
Key theorems: `Draft.exec_bind`, `Draft.root_registered`,
`Draft.exec_declareThen`, `Draft.exec_performThen_declareKind`,
`Draft.exec_cases`, `Draft.after_of_error`.
-/
import ResourceTemplate.Draft
import ResourceTemplate.Proofs.Cell
import ResourceTemplate.Proofs.Template.References

namespace ResourceTemplate

open Template (typePath versionPath)

/-- The values of a declared resource, at their paths. -/
def Resource.writes (r : Resource) : List (List String × Value) :=
  (typePath r.name, .str r.providerType) ::
    (r.apiVersion?.map fun version => (versionPath r.name, Value.str version)).toList

namespace Draft

/-! ### Sequences of what may fail -/

/-- What follows a failure is not done, and what went before stays done. -/
theorem exec_bind {α β : Type} (b : Build α) (f : α → Build β) (d : Draft) :
    (b >>= f).exec d =
      match b.exec d with
      | (.ok a, d') => (f a).exec d'
      | (.error e, d') => (.error e, d') := by
  -- the state monad hands on the draft, whatever came of the first part
  change (match b.exec d with | (x, d') => (ExceptT.bindCont f x).run d') = _
  rcases b.exec d with ⟨x, d'⟩
  cases x <;> rfl

theorem exec_get (d : Draft) : Build.exec get d = (.ok d, d) := rfl

theorem exec_modify (f : Draft → Draft) (d : Draft) : Build.exec (modify f) d = (.ok (), f d) := rfl

theorem exec_return {α : Type} (a : α) (d : Draft) : Build.exec (return a) d = (.ok a, d) := rfl

theorem exec_throw {α : Type} (e : Error) (d : Draft) :
    Build.exec (throw e : Build α) d = (.error e, d) := rfl

/-! ### Declarations -/

/-- The draft with a resource registered last and its attributes written. -/
def registered (d : Draft) (r : Resource) : Draft :=
  { d with
    registry := d.registry ++ [(r.name, r)]
    root := d.root.child resourcesField (Cell.child r.name (seed r)) }

/-- A declaration assigns the attributes of its resource. -/
theorem root_registered (d : Draft) (r : Resource) : (d.registered r).root = d.root.assignAll r.writes := by
  have hset : ∀ (c : Cell) name v, c.path (Template.resourcePath r.name ++ [name]) (Cell.assign v) =
      c.path (Template.resourcePath r.name) (Cell.set name v) := fun c name v =>
    Cell.path_append (Template.resourcePath r.name) [name] (Cell.assign v) c
  change d.root.path (Template.resourcePath r.name) (seed r) = _
  rw [Resource.writes, Cell.assignAll, List.foldl_cons, typePath, hset]
  cases hr : r.apiVersion? with
  | none =>
    refine congrArg (Cell.path _ · d.root) (funext fun c => ?_)
    rw [seed, hr]
    rfl
  | some version =>
    rw [Option.map_some, Option.toList_some, List.foldl_cons, List.foldl_nil, versionPath, hset,
      Cell.path_path]
    refine congrArg (Cell.path _ · d.root) (funext fun c => ?_)
    rw [seed, hr]
    rfl

theorem exec_register_of_mem {d : Draft} {r : Resource} (h : r.name ∈ Entries.names d.registry) :
    (register r).exec d = (.error (.duplicateResource r.name), d) := by
  obtain ⟨other, hother⟩ := Entries.exists_get?_of_mem h
  rw [register, exec_bind, exec_get]
  simp only [hother]
  exact exec_throw _ d

theorem exec_register_of_not_mem {d : Draft} {r : Resource} (h : r.name ∉ Entries.names d.registry) :
    (register r).exec d = (.ok (), { d with registry := d.registry ++ [(r.name, r)] }) := by
  rw [register, exec_bind, exec_get]
  simp only [Entries.get?_eq_none_iff.2 h, exec_modify, Entries.insert, Entries.alter_of_not_mem _ h]

/-- A declaration fails if the name is taken, and has then written nothing. -/
theorem exec_declareThen (f : Cell → Cell) (d : Draft) (r : Resource) :
    (declareThen f r).exec d =
      if r.name ∈ Entries.names d.registry then (.error (.duplicateResource r.name), d)
      else (.ok (), { d.registered r with
        root := d.root.path (Template.resourcePath r.name) fun branch => f (seed r branch) }) := by
  rw [declareThen, exec_bind]
  by_cases h : r.name ∈ Entries.names d.registry
  · rw [if_pos h, exec_register_of_mem h]
  · rw [if_neg h, exec_register_of_not_mem h]
    rfl

theorem exec_declare (d : Draft) (r : Resource) :
    (declare r).exec d =
      if r.name ∈ Entries.names d.registry then (.error (.duplicateResource r.name), d)
      else (.ok (), d.registered r) :=
  exec_declareThen id d r

/-- A declaration fails and leaves the draft as it is, or registers its
resource, which is new. -/
theorem exec_declare_cases (d : Draft) (r : Resource) :
    (∃ e, (declare r).exec d = (.error e, d)) ∨
    r.name ∉ Entries.names d.registry ∧ (declare r).exec d = (.ok (), d.registered r) := by
  rw [exec_declare]
  by_cases h : r.name ∈ Entries.names d.registry
  · rw [if_pos h]
    exact .inl ⟨_, rfl⟩
  · rw [if_neg h]
    exact .inr ⟨h, rfl⟩

theorem exec_known (d : Draft) (kind : String) : (known kind).exec d = (d.catalog.lookup kind, d) := by
  rw [known, exec_bind, exec_get]
  dsimp only
  cases d.catalog.lookup kind with
  | ok known => exact exec_return known d
  | error e => exact exec_throw e d

/-- The resource that a step asks to declare; of a kind the catalog of the
moment says what it is. -/
def resource? (d : Draft) (s : Template.Step) : Option Resource := d.template.resource? s

/-- A declaration by kind fails if the kind is not known, else as the
declaration of what the catalog says does. -/
theorem exec_performThen_declareKind (f : Cell → Cell) (d : Draft) (kind name : String) :
    (performThen f (.declareKind kind name)).exec d =
      match d.resource? (.declareKind kind name) with
      | some r => (declareThen f r).exec d
      | none => (.error (.unknownKind kind), d) := by
  rw [performThen, exec_bind, exec_known, Catalog.lookup]
  cases h : d.catalog.kinds.get? kind with
  | none =>
    have hnone : d.resource? (.declareKind kind name) = none := congrArg (Option.map _) h
    rw [hnone]
  | some known =>
    have hsome : d.resource? (.declareKind kind name) = some {
        name := Template.nameOfKind kind name
        providerType := known.providerType
        apiVersion? := some known.apiVersion } := congrArg (Option.map _) h
    rw [hsome]

theorem exec_declareKind (d : Draft) (kind name : String) :
    (perform (.declareKind kind name)).exec d =
      match d.resource? (.declareKind kind name) with
      | some r => (declare r).exec d
      | none => (.error (.unknownKind kind), d) :=
  exec_performThen_declareKind id d kind name

/-! ### All steps -/

variable {d : Draft} {s : Template.Step} {r : Resource}

theorem exec_performThen_of_resource (f : Cell → Cell) (h : d.resource? s = some r) :
    (performThen f s).exec d = (declareThen f r).exec d := by
  rcases Template.resource?_cases h with ⟨name, providerType, rfl, rfl⟩ | ⟨kind, name, known, rfl, -, -⟩
  · rfl
  · rw [exec_performThen_declareKind, h]

theorem exec_of_resource (h : d.resource? s = some r) : (perform s).exec d = (declare r).exec d :=
  exec_performThen_of_resource id h

/-- What a step can do. -/
theorem exec_cases (d : Draft) (s : Template.Step) :
    (∃ e, (perform s).exec d = (.error e, d)) ∨
    (∃ r, d.resource? s = some r ∧ r.name ∉ Entries.names d.registry ∧
      (perform s).exec d = (.ok (), d.registered r)) ∨
    d.resource? s = none ∧ ∃ d', (perform s).exec d = (.ok (), d') ∧ d'.registry = d.registry := by
  cases hr : d.resource? s with
  | some r =>
    rw [exec_of_resource hr]
    rcases exec_declare_cases d r with h | ⟨hnew, h⟩
    · exact .inl h
    · exact .inr (.inl ⟨r, rfl, hnew, h⟩)
  | none =>
    cases s with
    | declare name providerType => exact absurd hr (by simp [resource?, Template.resource?])
    | declareKind kind name =>
      rw [exec_declareKind, hr]
      exact .inl ⟨_, rfl⟩
    | restyle style => exact .inr (.inr ⟨rfl, _, rfl, rfl⟩)
    | recatalog catalog => exact .inr (.inr ⟨rfl, _, rfl, rfl⟩)
    | openResources => exact .inr (.inr ⟨rfl, _, rfl, rfl⟩)
    | edit e => exact .inr (.inr ⟨rfl, _, rfl, rfl⟩)

/-- A step that fails leaves everything as it was. -/
theorem after_of_error {e : Error} (h : d.outcome s = .error e) : d.after s = d := by
  rw [outcome] at h
  rcases exec_cases d s with ⟨e', hexec⟩ | ⟨r, -, -, hexec⟩ | ⟨-, d', hexec, -⟩
  · rw [after, hexec]
  · rw [hexec] at h
    exact absurd h (by simp)
  · rw [hexec] at h
    exact absurd h (by simp)

/-- Steps that graft only trees of different names leave a tree that calls
made. -/
theorem made_after (h : d.root.Made) (hs : ∀ place scion, s = .edit (.graft place scion) → scion.Distinct) :
    (d.after s).root.Made := by
  have hdeclare : ∀ r, ((declare r).exec d).2.root.Made := by
    intro r
    rcases exec_declare_cases d r with ⟨e, hexec⟩ | ⟨-, hexec⟩
    · rw [hexec]
      exact h
    · rw [hexec, root_registered]
      exact h.assignAll r.writes
  rw [after]
  cases s with
  | declare name providerType => exact hdeclare _
  | declareKind kind name =>
    rw [exec_declareKind]
    cases d.resource? (.declareKind kind name) with
    | none => exact h
    | some r => exact hdeclare r
  | restyle style => exact h
  | recatalog catalog => exact h
  | openResources => exact .write [] (.child resourcesField) h
  | edit e =>
    cases e with
    | reach place => exact .write place (.path []) h
    | assign place v => exact .write place (.assign v) h
    | dependsOn place refs => exact .write place (.dependsOn refs) h
    | graft place scion => exact .overwrite place h (Cell.made_ofNode (hs place scion rfl))

theorem run_cons (d : Draft) (s : Template.Step) (steps : List Template.Step) :
    d.run (s :: steps) = (d.after s).run steps := rfl

theorem made_run {steps : List Template.Step} (h : d.root.Made)
    (hs : ∀ place scion, .edit (.graft place scion) ∈ steps → scion.Distinct) : (d.run steps).root.Made := by
  induction steps generalizing d with
  | nil => exact h
  | cons s steps ih =>
    refine ih (made_after h fun place scion hscion => ?_) fun place scion hscion => ?_
    · exact hs place scion (hscion ▸ List.mem_cons_self)
    · exact hs place scion (List.mem_cons_of_mem _ hscion)

end Draft
end ResourceTemplate
