/-
# Resources that are declared by kind

A resource that is declared by its kind is called by a name, an underscore and
the kind. Nothing marks where the kind begins: the name may hold underscores
and end in an underscore and another kind, and kinds may hold underscores too.
But a kind is read from the end. Of two kinds that one text ends with, each
behind an underscore, the shorter one with its underscore is the end of the
longer one. So if no kind of a catalog ends in an underscore and a kind of the
catalog (`Catalog.KindsApart`), the text tells the kind and hence the name
(`Catalog.KindsApart.nameOfKind_inj`).

In a run that declares by kind only, on one such catalog, the registry then
knows the pairs of kinds and names that were declared, and a pair is refused if
and only if it is among them (`Draft.refused_iff_declared_before`).

Key definitions: `Catalog.KindsApart`, `Template.Step.ByKind`,
`Draft.DeclaredBefore`.
Key theorems: `Catalog.KindsApart.nameOfKind_inj`, `Draft.mem_declarations_iff`,
`Draft.taken_iff_declared_before`, `Draft.refused_iff_declared_before`.
-/
import ResourceTemplate.Proofs.Draft.Log

namespace ResourceTemplate

open Template (nameOfKind)

/-! ### Kinds that are told apart -/

/-- Whether no kind of a catalog ends in an underscore and a kind of the
catalog. -/
def Catalog.KindsApart (c : Catalog) : Prop :=
  ∀ kind ∈ Entries.names c.kinds, ∀ other ∈ Entries.names c.kinds, ¬ '_' :: other.toList <:+ kind.toList

instance (c : Catalog) : Decidable c.KindsApart :=
  inferInstanceAs (Decidable (∀ kind ∈ _, ∀ other ∈ _, ¬ _))

theorem Catalog.kindsApart_azure : azure.KindsApart := by decide

theorem Template.toList_nameOfKind (kind name : String) :
    (nameOfKind kind name).toList = name.toList ++ '_' :: kind.toList := by
  simp [nameOfKind]

/-- The shorter of two kinds is the end of the longer one, underscore
included. -/
theorem Template.suffix_of_nameOfKind_eq {kind other name name' : String}
    (h : nameOfKind kind name = nameOfKind other name') (hlen : other.toList.length < kind.toList.length) :
    '_' :: other.toList <:+ kind.toList := by
  have hother : '_' :: other.toList <:+ (nameOfKind kind name).toList := by
    rw [h, toList_nameOfKind]
    exact List.suffix_append _ _
  have hkind : kind.toList <:+ (nameOfKind kind name).toList := by
    rw [toList_nameOfKind]
    exact (List.suffix_cons _ _).trans (List.suffix_append _ _)
  have hle : ('_' :: other.toList).length ≤ kind.toList.length := by
    rw [List.length_cons]
    omega
  exact List.suffix_of_suffix_length_le hother hkind hle

/-- **The text tells the kind and the name.** -/
theorem Catalog.KindsApart.nameOfKind_inj {c : Catalog} (hc : c.KindsApart) {kind other name name' : String}
    (hkind : kind ∈ Entries.names c.kinds) (hother : other ∈ Entries.names c.kinds)
    (h : nameOfKind kind name = nameOfKind other name') : kind = other ∧ name = name' := by
  rcases Nat.lt_trichotomy kind.toList.length other.toList.length with hlt | heq | hgt
  · exact absurd (Template.suffix_of_nameOfKind_eq h.symm hlt) (hc other hother kind hkind)
  · have hchars : name.toList ++ '_' :: kind.toList = name'.toList ++ '_' :: other.toList := by
      rw [← Template.toList_nameOfKind, h, Template.toList_nameOfKind]
    have hlen : ('_' :: kind.toList).length = ('_' :: other.toList).length := by
      simpa using heq
    obtain ⟨hname, hkinds⟩ := List.append_inj' hchars hlen
    exact ⟨String.toList_injective (List.cons.inj hkinds).2, String.toList_injective hname⟩
  · exact absurd (Template.suffix_of_nameOfKind_eq h hgt) (hc kind hkind other hother)

/-- Of kinds that are not told apart one name can be of two. -/
example : nameOfKind "sets" "web_data" = nameOfKind "data_sets" "web" := by decide

/-! ### Runs on one catalog -/

/-- Whether a step declares by kind, if it declares a resource, and keeps to a
catalog. -/
def Template.Step.ByKind (c : Catalog) : Step → Prop
  | .declare _ _ => False
  | .recatalog c' => c' = c
  | .declareKind _ _ | .restyle _ | .openResources | .edit _ => True

instance (c : Catalog) : (s : Template.Step) → Decidable (s.ByKind c)
  | .declare _ _ => inferInstanceAs (Decidable False)
  | .recatalog c' => inferInstanceAs (Decidable (c' = c))
  | .declareKind _ _ | .restyle _ | .openResources | .edit _ => inferInstanceAs (Decidable True)

namespace Draft

variable {d : Draft} {s : Template.Step} {steps : List Template.Step} {kind name : String} {r : Resource}

/-- Declaring a resource leaves the catalog alone. -/
theorem catalog_exec_declare (d : Draft) (r : Resource) : ((declare r).exec d).2.catalog = d.catalog := by
  rcases exec_declare_cases d r with ⟨e, h⟩ | ⟨-, h⟩
  · rw [h]
  · rw [h]
    rfl

theorem catalog_after (h : s.ByKind d.catalog) : (d.after s).catalog = d.catalog := by
  cases s with
  | declare name providerType => exact h.elim
  | declareKind kind name =>
    rw [after, exec_declareKind]
    cases d.resource? (.declareKind kind name) with
    | none => rfl
    | some r => exact catalog_exec_declare d r
  | recatalog c => exact h
  | restyle style => rfl
  | openResources => rfl
  | edit e => rfl

theorem catalog_run (h : ∀ s ∈ steps, s.ByKind d.catalog) : (d.run steps).catalog = d.catalog := by
  induction steps generalizing d with
  | nil => rfl
  | cons s steps ih =>
    rw [List.forall_mem_cons] at h
    have hstep : (d.after s).catalog = d.catalog := catalog_after h.1
    have hrest : ∀ s' ∈ steps, s'.ByKind (d.after s).catalog := by
      rw [hstep]
      exact h.2
    rw [run_cons, ih hrest, hstep]

/-- What steps declare, one of them declares when it is its turn. -/
theorem mem_declarations_iff (d : Draft) (steps : List Template.Step) :
    r ∈ d.declarations steps ↔
      ∃ before s after, steps = before ++ s :: after ∧ (d.run before).declared? s = some r := by
  induction steps generalizing d with
  | nil => simp [declarations]
  | cons s steps ih =>
    rw [declarations, List.mem_append, Option.mem_toList, ih]
    constructor
    · rintro (hr | ⟨before, s', after, rfl, hr⟩)
      · exact ⟨[], s, steps, rfl, hr⟩
      · exact ⟨s :: before, s', after, rfl, hr⟩
    · rintro ⟨before, s', after, hsteps, hr⟩
      cases before with
      | nil =>
        obtain ⟨rfl, rfl⟩ := List.cons.inj hsteps
        exact .inl hr
      | cons first before =>
        obtain ⟨rfl, rfl⟩ := List.cons.inj hsteps
        exact .inr ⟨before, s', after, rfl, hr⟩

/-- A resource that a step by kind declares is of a known kind and has the
name of the kind. -/
theorem exists_kind_of_declared (h : s.ByKind d.catalog) (hr : d.declared? s = some r) :
    ∃ kind name, s = .declareKind kind name ∧ kind ∈ Entries.names d.catalog.kinds ∧
      r.name = nameOfKind kind name := by
  obtain ⟨-, hresource⟩ := declared?_eq_some_iff.1 hr
  rcases Template.resource?_cases hresource with
    ⟨name, providerType, rfl, -⟩ | ⟨kind, name, known, rfl, hknown, rfl⟩
  · exact h.elim
  · refine ⟨kind, name, rfl, ?_, rfl⟩
    exact List.mem_map.2 ⟨(kind, known), Entries.mem_of_get? hknown, rfl⟩

/-- Whether a run declares a resource of a kind and a name, at whatever
step. -/
def DeclaredBefore (d : Draft) (steps : List Template.Step) (kind name : String) : Prop :=
  ∃ before after, steps = before ++ .declareKind kind name :: after ∧
    (d.run before).outcome (.declareKind kind name) = .ok ()

/-- **A name of a kind is taken if and only if the pair was declared.** -/
theorem taken_iff_declared_before (hnone : d.registry = []) (hc : d.catalog.KindsApart)
    (hsteps : ∀ s ∈ steps, s.ByKind d.catalog) (hkind : kind ∈ Entries.names d.catalog.kinds) :
    nameOfKind kind name ∈ Entries.names (d.run steps).registry ↔ d.DeclaredBefore steps kind name := by
  have hnames : Entries.names (d.run steps).registry = (d.declarations steps).map (·.name) := by
    rw [registry_run, hnone, List.nil_append, entries, Entries.names, List.map_map]
    rfl
  rw [hnames, List.mem_map]
  constructor
  · rintro ⟨r, hr, hname⟩
    obtain ⟨before, s, after, rfl, hdeclared⟩ := (mem_declarations_iff d steps).1 hr
    have hbefore : (d.run before).catalog = d.catalog :=
      catalog_run fun s' hs' => hsteps s' (List.mem_append_left _ hs')
    have hs : s.ByKind (d.run before).catalog := by
      rw [hbefore]
      exact hsteps s (List.mem_append_right _ List.mem_cons_self)
    obtain ⟨kind', name', rfl, hkind', hname'⟩ := exists_kind_of_declared hs hdeclared
    rw [hbefore] at hkind'
    -- the pair that took the name is the pair that is asked for
    obtain ⟨rfl, rfl⟩ := hc.nameOfKind_inj hkind' hkind (hname'.symm.trans hname)
    exact ⟨before, after, rfl, (declared?_eq_some_iff.1 hdeclared).1⟩
  · rintro ⟨before, after, rfl, hok⟩
    obtain ⟨known, -, hr⟩ := exists_known_of_outcome hok
    exact ⟨_, (mem_declarations_iff d _).2 ⟨before, _, after, rfl, hr⟩, rfl⟩

/-- **Names of kinds do not clash.** No kind of Azure ends in an underscore and
another one. On any catalog of which this holds let steps declare by kind only,
from a draft that has declared nothing. Then a resource of a known kind is
refused, as a duplicate of its name, if and only if one of the same kind and
the same name was declared in the run, and it is declared if and only if none
was; whatever the names are. -/
theorem refused_iff_declared_before :
    Catalog.azure.KindsApart ∧
    ∀ (d : Draft) (steps : List Template.Step), d.registry = [] → d.catalog.KindsApart →
      (∀ s ∈ steps, s.ByKind d.catalog) → ∀ kind ∈ Entries.names d.catalog.kinds, ∀ name,
        ((d.run steps).outcome (.declareKind kind name) = .error (.duplicateResource (nameOfKind kind name)) ↔
          d.DeclaredBefore steps kind name) ∧
        ((d.run steps).outcome (.declareKind kind name) = .ok () ↔ ¬ d.DeclaredBefore steps kind name) := by
  refine ⟨Catalog.kindsApart_azure, fun d steps hnone hc hsteps kind hkind name => ?_⟩
  have hknown : kind ∈ Entries.names (d.run steps).catalog.kinds := by
    rw [catalog_run hsteps]
    exact hkind
  rw [outcome_declareKind, if_neg (not_not_intro hknown),
    ← taken_iff_declared_before hnone hc hsteps hkind]
  by_cases htaken : nameOfKind kind name ∈ Entries.names (d.run steps).registry
  · simp [htaken]
  · simp [htaken]

/-- A run with names that are empty, or end in an underscore and another kind. -/
def entangledRun : List Template.Step := [
  .declareKind "deployments" "",
  .declareKind "load_balancers" "web_deployments",
  .declareKind "deployments" "web_deployments_load_balancers",
  .edit (.assign [resourcesField, "web_deployments", "location"] (.str "westeurope")),
  .declareKind "deployments" ""]

/-- A pair is refused the second time; a name that another kind has, or that is
in the name of another resource, is free. -/
theorem refused_iff_declared_before_entangledRun :
    let d : Draft := { name := "site" }
    (∀ s ∈ entangledRun, s.ByKind d.catalog) ∧ d.DeclaredBefore entangledRun "deployments" "" ∧
    (d.run entangledRun).outcome (.declareKind "deployments" "") = .error (.duplicateResource "_deployments") ∧
    ¬ d.DeclaredBefore entangledRun "deployments" "web" ∧
    (d.run entangledRun).outcome (.declareKind "deployments" "web") = .ok () ∧
    (d.run entangledRun).outcome (.declareKind "load_balancers" "") = .ok () := by
  intro d
  have hsteps : ∀ s ∈ entangledRun, s.ByKind d.catalog := by decide
  obtain ⟨hazure, hrun⟩ := refused_iff_declared_before
  obtain ⟨hrefused, -⟩ := hrun d entangledRun rfl hazure hsteps "deployments" (by decide) ""
  obtain ⟨-, hfree⟩ := hrun d entangledRun rfl hazure hsteps "deployments" (by decide) "web"
  have hok : (d.run entangledRun).outcome (.declareKind "deployments" "web") = .ok () := by
    rw [outcome_declareKind]
    decide
  have hempty : d.DeclaredBefore entangledRun "deployments" "" := ⟨[], _, rfl, rfl⟩
  refine ⟨hsteps, hempty, hrefused.2 hempty, hfree.1 hok, hok, ?_⟩
  rw [outcome_declareKind]
  decide

end Draft
end ResourceTemplate
