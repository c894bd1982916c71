/-
# A name is declared once

A registry takes no second resource of a name. So the names of its resources
are distinct however it came about, and a look-up under the name of a
resource finds that resource.

Key definitions: `Registry.Distinct`.
Key theorems: `Registry.Distinct.insert`, `Registry.Distinct.resolve_eq_ok`.
-/
import Mathlib.Data.List.Nodup
import ResourceTemplate.Registry

namespace ResourceTemplate
namespace Registry

/-- No two resources have one name. -/
def Distinct (g : Registry) : Prop := (g.resources.map (·.name)).Nodup

theorem distinct_empty : empty.Distinct := List.nodup_nil

theorem find?_eq_none_iff {g : Registry} {name : String} :
    g.find? name = none ↔ name ∉ g.resources.map (·.name) := by
  rw [find?, List.find?_eq_none, List.mem_map]
  constructor
  · rintro h ⟨r, hr, rfl⟩
    exact h r hr (by simp)
  · intro h r hr hname
    exact h ⟨r, hr, by simpa using hname⟩

theorem Distinct.insert {g g' : Registry} {r : Resource} (hg : g.Distinct) (h : g.insert r = .ok g') :
    g'.Distinct := by
  obtain ⟨hnew, rfl⟩ := insert_eq_ok_iff.1 h
  rw [find?_eq_none_iff] at hnew
  rw [Distinct, List.map_append]
  exact List.Nodup.append hg (List.nodup_singleton r.name) (List.disjoint_singleton.2 hnew)

/-- A resource is found under its name. -/
theorem Distinct.find?_eq_some {g : Registry} (hg : g.Distinct) {r : Resource} (hr : r ∈ g.resources) :
    g.find? r.name = some r := by
  cases h : g.find? r.name with
  | none => exact absurd (List.mem_map.2 ⟨r, hr, rfl⟩) (find?_eq_none_iff.1 h)
  | some r' =>
    have hname : r'.name = r.name := by simpa using List.find?_some h
    have hr' : r' ∈ g.resources := List.mem_of_find?_eq_some h
    rw [List.inj_on_of_nodup_map hg hr' hr hname]

theorem Distinct.resolve_eq_ok {g : Registry} (hg : g.Distinct) {r : Resource} (hr : r ∈ g.resources)
    (requester : Requester) : g.resolve r.name requester = .ok r := by
  rw [resolve, hg.find?_eq_some hr]

end Registry
end ResourceTemplate
