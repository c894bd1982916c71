/-
# Which declared resources a document tells apart

Resources are told apart by the names of their declarations, but a document
refers to them by what the style makes of these names, and a style in camel
case gives `web_app` and `webApp` one spelling
(`Draft.qualified_names_merge`). So of two resources of one provider type
the references are the same text exactly if the style spells their names
alike. That never happens in a style that leaves names alone, and in no style
to names in snake case.

Key theorems: `Resource.qualified_inj`, `Draft.qualified_names_merge`,
`Draft.told_apart_iff_spelled_apart`.
-/
import ResourceTemplate.Proofs.Draft.Refinement
import ResourceTemplate.Proofs.KeyStyle.SnakeCase
import ResourceTemplate.Proofs.Text.Delimited

namespace ResourceTemplate

open Template (value_declared argument_declared)

theorem Text.quote_inj {s t : String} : quote s = quote t ↔ s = t := by
  constructor
  · intro h
    have hchars : (quote s).toList ++ [] = (quote t).toList ++ [] := by rw [h]
    exact (quote_append_inj (by simp) (by simp) hchars).1
  · rintro rfl
    rfl

/-- Of resources of one type, those of one spelling have one qualified
name. -/
theorem Resource.qualified_inj {style : KeyStyle} {r r' : Resource} (h : r.providerType = r'.providerType) :
    r.qualified style = r'.qualified style ↔ style.spell r.name = style.spell r'.name := by
  rw [qualified, qualified, rendered, rendered, h]
  exact String.append_right_inj (r'.providerType ++ "/")

/-- A style that leaves names alone spells different names differently, and so
does every style if the names are in snake case. -/
theorem KeyStyle.spell_ne {style : KeyStyle} {name other : String} (hne : name ≠ other)
    (h : style.camel = false ∨ isSnakeCase name ∧ isSnakeCase other) : style.spell name ≠ style.spell other := by
  rcases h with hverbatim | ⟨hname, hother⟩
  · rw [spell, spell, hverbatim, if_neg Bool.false_ne_true, if_neg Bool.false_ne_true]
    exact hne
  · exact fun heq => hne (style.spell_inj_of_snakeCase hname hother heq)

namespace Draft

/-- Two declarations of different names can have one qualified name in camel
case. -/
theorem qualified_names_merge :
    let d := run { name := "site" } [.declare "web_app" "Web/sites", .declare "webApp" "Web/sites"]
    ¬ ∀ r ∈ d.template.registry.resources, ∀ r' ∈ d.template.registry.resources,
      r ≠ r' → r.providerType = r'.providerType → ∀ style, r.qualified style ≠ r'.qualified style := by
  intro d h
  have hregistry : d.template.registry.resources =
      [{ name := "web_app", providerType := "Web/sites" }, { name := "webApp", providerType := "Web/sites" }] := rfl
  rw [hregistry] at h
  exact h _ (List.mem_cons_self) _ (List.mem_cons_of_mem _ List.mem_cons_self) (by decide) rfl .standard (by decide)

variable {name : String} {steps : List Template.Step} {r r' : Resource}

/-- Different resources of a run have different names. -/
theorem name_ne_of_ne (hr : r ∈ (run { name } steps).template.registry.resources)
    (hr' : r' ∈ (run { name } steps).template.registry.resources) (hne : r ≠ r') : r.name ≠ r'.name := by
  intro hname
  exact hne (List.inj_on_of_nodup_map (distinct_run name steps) hr hr' hname)

/-- **References tell resources apart as far as the style spells them
apart.** After any steps from a fresh draft let two different resources of one
provider type be registered. In a style their qualified names are the same
exactly if their names are spelled alike, and so are the references to them,
as values and as arguments. A style that leaves names alone never spells them
alike, and no style does if both names are in snake case. -/
theorem told_apart_iff_spelled_apart (style : KeyStyle)
    (hr : r ∈ (run { name } steps).template.registry.resources)
    (hr' : r' ∈ (run { name } steps).template.registry.resources) (hne : r ≠ r')
    (htype : r.providerType = r'.providerType) :
    let s : Scope := ⟨style, (run { name } steps).template.registry⟩
    let alike := style.spell r.name = style.spell r'.name
    (r.qualified style = r'.qualified style ↔ alike) ∧
    (∀ q q', (Value.ref (.declared r.name q)).document s = (Value.ref (.declared r'.name q')).document s ↔
      alike) ∧
    (∀ f f', (Arg.resource r.name).text s f = (Arg.resource r'.name).text s f' ↔ alike) ∧
    (style.camel = false ∨ KeyStyle.isSnakeCase r.name ∧ KeyStyle.isSnakeCase r'.name → ¬ alike) := by
  intro s alike
  have hdistinct : s.registry.Distinct := distinct_run name steps
  refine ⟨?_, ?_, ?_, ?_⟩
  · exact Resource.qualified_inj htype
  · intro q q'
    rw [value_declared hdistinct hr, value_declared hdistinct hr', Except.ok.injEq, Document.str.injEq]
    exact Resource.qualified_inj htype
  · intro f f'
    rw [argument_declared hdistinct hr, argument_declared hdistinct hr', Except.ok.injEq, List.cons.injEq,
      List.cons.injEq, Text.quote_inj, Text.quote_inj, htype]
    simp [alike, s, Resource.rendered]
  · intro h
    exact KeyStyle.spell_ne (name_ne_of_ne hr hr' hne) h

/-- In camel case two applications with names in snake case are told apart. -/
theorem told_apart_web_app_web_api :
    let steps : List Template.Step := [.declare "web_app" "Web/sites", .declare "web_api" "Web/sites"]
    let registry := (run { name := "site" } steps).template.registry
    let app : Resource := { name := "web_app", providerType := "Web/sites" }
    let api : Resource := { name := "web_api", providerType := "Web/sites" }
    app ∈ registry.resources ∧ api ∈ registry.resources ∧ app ≠ api ∧ app.providerType = api.providerType ∧
    app.qualified .standard ≠ api.qualified .standard ∧
    (Value.ref (.declared "web_app" .dependsOn)).document ⟨.standard, registry⟩ ≠
      (Value.ref (.declared "web_api" .dependsOn)).document ⟨.standard, registry⟩ := by
  intro steps registry app api
  have happ : app ∈ registry.resources := List.mem_cons_self
  have hapi : api ∈ registry.resources := List.mem_cons_of_mem _ List.mem_cons_self
  have hne : app ≠ api := by decide
  obtain ⟨hqualified, hvalue, -, hsnake⟩ := told_apart_iff_spelled_apart .standard happ hapi hne rfl
  have happart := hsnake (.inr (by decide))
  exact ⟨happ, hapi, hne, rfl, mt hqualified.1 happart, mt (hvalue .dependsOn .dependsOn).1 happart⟩

end Draft
end ResourceTemplate
