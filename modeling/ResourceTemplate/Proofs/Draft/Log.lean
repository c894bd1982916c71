/-
# The registry is the log of the declarations

A registry has one entry for each declaration that succeeded, in order, under
the name that it was declared by; an entry stays as it was written. That the
names are distinct is both what makes a declaration fail and what keeps a new
entry last: a mapping that had the name would hold the resource in the old
place.

Key definitions: `Draft.declared?`, `Draft.declarations`, `Draft.entries`.
Key theorems: `Draft.registry_run`, `Draft.nodup_names_run`,
`Draft.registry_is_log`.
-/
import ResourceTemplate.Proofs.Draft.Steps

namespace ResourceTemplate
namespace Draft

/-- The resource that a step declares. -/
def declared? (d : Draft) (s : Template.Step) : Option Resource :=
  match d.outcome s with
  | .ok _ => d.resource? s
  | .error _ => none

/-- The resources that steps declare, in order. -/
def declarations (d : Draft) : List Template.Step → List Resource
  | [] => []
  | s :: steps => (d.declared? s).toList ++ (d.after s).declarations steps

/-- Resources, each under its name. -/
def entries (rs : List Resource) : Entries Resource := rs.map fun r => (r.name, r)

theorem entries_append (rs rs' : List Resource) : entries (rs ++ rs') = entries rs ++ entries rs' :=
  List.map_append

variable {d : Draft} {s : Template.Step}

theorem declared?_eq_some_iff {r : Resource} :
    d.declared? s = some r ↔ d.outcome s = .ok () ∧ d.resource? s = some r := by
  rw [declared?]
  cases d.outcome s with
  | ok u => simp
  | error e => simp

/-! ### One step -/

/-- What a step leaves of the registry, and what it declares. -/
theorem after_cases (d : Draft) (s : Template.Step) :
    (d.declared? s = none ∧ (d.after s).registry = d.registry) ∨
    ∃ r, d.declared? s = some r ∧ r.name ∉ Entries.names d.registry ∧ d.after s = d.registered r := by
  rw [declared?, outcome, after]
  rcases exec_cases d s with ⟨e, h⟩ | ⟨r, hr, hnew, h⟩ | ⟨hr, d', h, hd'⟩
  · rw [h]
    exact .inl ⟨rfl, rfl⟩
  · rw [h]
    exact .inr ⟨r, hr, hnew, rfl⟩
  · rw [h]
    exact .inl ⟨hr, hd'⟩

theorem registry_after (d : Draft) (s : Template.Step) :
    (d.after s).registry = d.registry ++ entries (d.declared? s).toList := by
  rcases after_cases d s with ⟨hd, h⟩ | ⟨r, hd, -, h⟩
  · rw [h, hd]
    exact (List.append_nil _).symm
  · rw [h, hd]
    rfl

theorem nodup_names_after (h : (Entries.names d.registry).Nodup) (s : Template.Step) :
    (Entries.names (d.after s).registry).Nodup := by
  rcases after_cases d s with ⟨-, hafter⟩ | ⟨r, -, hnew, hafter⟩
  · rw [hafter]
    exact h
  · rw [hafter, registered, Entries.names, List.map_append]
    exact List.Nodup.append h (List.nodup_singleton r.name) (List.disjoint_singleton.2 hnew)

/-- What comes of declaring a resource depends on its name alone. -/
theorem fst_exec_declare (d : Draft) (r : Resource) :
    ((declare r).exec d).1 =
      if r.name ∈ Entries.names d.registry then .error (.duplicateResource r.name) else .ok () := by
  rw [exec_declare]
  by_cases h : r.name ∈ Entries.names d.registry
  · rw [if_pos h, if_pos h]
  · rw [if_neg h, if_neg h]

theorem outcome_declare (d : Draft) (name providerType : String) :
    d.outcome (.declare name providerType) =
      if name ∈ Entries.names d.registry then .error (.duplicateResource name) else .ok () :=
  fst_exec_declare d { name, providerType }

theorem outcome_declareKind (d : Draft) (kind name : String) :
    d.outcome (.declareKind kind name) =
      if kind ∉ Entries.names d.catalog.kinds then .error (.unknownKind kind)
      else if Template.nameOfKind kind name ∈ Entries.names d.registry then
        .error (.duplicateResource (Template.nameOfKind kind name))
      else .ok () := by
  rw [outcome, exec_declareKind]
  by_cases h : kind ∈ Entries.names d.catalog.kinds
  · obtain ⟨known, hknown⟩ := Entries.exists_get?_of_mem h
    have hr : d.resource? (.declareKind kind name) = some {
        name := Template.nameOfKind kind name
        providerType := known.providerType
        apiVersion? := some known.apiVersion } := congrArg (Option.map _) hknown
    rw [hr, if_neg (not_not_intro h)]
    exact fst_exec_declare d _
  · have hr : d.resource? (.declareKind kind name) = none :=
      congrArg (Option.map _) (Entries.get?_eq_none_iff.2 h)
    rw [hr, if_pos h]

/-- A declaration by kind that succeeds declares what the catalog knows of the
kind. -/
theorem exists_known_of_outcome {kind name : String} (h : d.outcome (.declareKind kind name) = .ok ()) :
    ∃ known, d.catalog.kinds.get? kind = some known ∧ d.declared? (.declareKind kind name) =
      some ⟨Template.nameOfKind kind name, known.providerType, some known.apiVersion⟩ := by
  have hkind : kind ∈ Entries.names d.catalog.kinds := by
    by_contra hnot
    rw [outcome_declareKind, if_pos hnot] at h
    exact absurd h (by simp)
  obtain ⟨known, hknown⟩ := Entries.exists_get?_of_mem hkind
  exact ⟨known, hknown, declared?_eq_some_iff.2 ⟨h, congrArg (Option.map _) hknown⟩⟩

/-! ### A whole run -/

theorem registry_run (d : Draft) (steps : List Template.Step) :
    (d.run steps).registry = d.registry ++ entries (d.declarations steps) := by
  induction steps generalizing d with
  | nil => exact (List.append_nil _).symm
  | cons s steps ih => rw [run_cons, ih, registry_after, declarations, entries_append, List.append_assoc]

theorem nodup_names_run (h : (Entries.names d.registry).Nodup) (steps : List Template.Step) :
    (Entries.names (d.run steps).registry).Nodup := by
  induction steps generalizing d with
  | nil => exact h
  | cons s steps ih => exact ih (nodup_names_after h s)

/-- **The registry is the log of the declarations.** After any steps from a
fresh draft its entries are the resources that the steps declared, in order,
each under its name, and no two of one name; whatever is done next, they stay
and new ones come after them. A declaration fails if its name is taken, one
by kind first if the kind is not known, and for no other reason; what fails
changes nothing. -/
theorem registry_is_log (name : String) (steps : List Template.Step) :
    let d := run { name } steps
    d.registry = entries (declarations { name } steps) ∧
    (Entries.names d.registry).Nodup ∧
    (∀ more, (d.run more).registry = d.registry ++ entries (d.declarations more)) ∧
    (∀ n providerType, d.outcome (.declare n providerType) =
      if n ∈ Entries.names d.registry then .error (.duplicateResource n) else .ok ()) ∧
    (∀ kind n, d.outcome (.declareKind kind n) =
      if kind ∉ Entries.names d.catalog.kinds then .error (.unknownKind kind)
      else if Template.nameOfKind kind n ∈ Entries.names d.registry then
        .error (.duplicateResource (Template.nameOfKind kind n))
      else .ok ()) ∧
    ∀ s e, d.outcome s = .error e → d.after s = d := by
  intro d
  refine ⟨?_, ?_, ?_, ?_, ?_, ?_⟩
  · exact registry_run { name } steps
  · have hnew : (Entries.names ({ name } : Draft).registry).Nodup := List.nodup_nil
    exact nodup_names_run hnew steps
  · exact registry_run d
  · exact outcome_declare d
  · exact outcome_declareKind d
  · exact fun s e h => after_of_error h

/-- A run that declares a name twice, and one kind before and after its
version changes. -/
def versionedRun : List Template.Step := [
  .declare "db" "Microsoft.Sql/servers",
  .declareKind "virtual_machines" "web",
  .recatalog (Catalog.azure.insert "virtual_machines" ⟨"Microsoft.Compute/virtualMachines", "2023-03-01"⟩),
  .declare "db" "Microsoft.Sql/databases",
  .declareKind "virtual_machines" "app"]

/-- The entries have the versions of their time, and a kind that is not known
changes nothing. -/
theorem registry_is_log_versionedRun :
    let d := run { name := "site" } versionedRun
    let machines := "Microsoft.Compute/virtualMachines"
    d.registry = [
      ("db", { name := "db", providerType := "Microsoft.Sql/servers" }),
      ("web_virtual_machines", ⟨"web_virtual_machines", machines, some "2015-06-15"⟩),
      ("app_virtual_machines", ⟨"app_virtual_machines", machines, some "2023-03-01"⟩)] ∧
    d.outcome (.declareKind "disks" "web") = .error (.unknownKind "disks") ∧
    d.after (.declareKind "disks" "web") = d := by
  intro d machines
  obtain ⟨hlog, -, -, -, hkind, hfails⟩ := registry_is_log "site" versionedRun
  have hunknown : d.outcome (.declareKind "disks" "web") = .error (.unknownKind "disks") := by
    rw [hkind, if_pos (by decide)]
  refine ⟨hlog.trans (by decide), hunknown, hfails _ _ hunknown⟩

end Draft
end ResourceTemplate
