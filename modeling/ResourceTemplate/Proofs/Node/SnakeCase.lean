/-
# Names in snake case stay apart in a document

A document tells the children of a branch apart by the spellings of their
names, and names in snake case can be read back from these. So two siblings
of different names in snake case have two fields. What stands in the field of
such a child is its own document, unless a sibling is spelled alike whose name
is not in snake case (`Node.Separate`). If all the names are in snake case the
fields are the children, one for one and in order, and so they are in the
object of a resource behind its name: a field that is spelled as `name` is
then called so, and left out (`Node.SnakeCased`).

Resources are told apart by their places in the list. Their names in the
document, and the references that are made from these, are different too.

Key definitions: `Node.Separate`, `Node.SnakeCased`.
Key theorems: `Node.separate_ofList`, `Node.SnakeCased.nodup_spelled`,
`Resource.qualified_ne`, `Node.snake_case_kept_apart`.
-/
import Mathlib.Data.List.DropRight
import ResourceTemplate.Proofs.KeyStyle.SnakeCase
import ResourceTemplate.Proofs.Node.Structure

namespace ResourceTemplate

/-! ### References to resources -/

/-- What stands behind the last slash is read in one way. -/
theorem Text.eq_of_append_slash {before before' behind behind' : List Char} (h : '/' ∉ behind)
    (h' : '/' ∉ behind') (heq : before ++ '/' :: behind = before' ++ '/' :: behind') : behind = behind' := by
  have hlast : ∀ {before behind : List Char}, '/' ∉ behind →
      (before ++ '/' :: behind).rtakeWhile (· != '/') = behind := by
    intro before behind hbehind
    have hall : ∀ c ∈ behind.reverse, (c != '/') = true := by
      intro c hc
      exact bne_iff_ne.2 fun hslash => hbehind (hslash ▸ List.mem_reverse.1 hc)
    rw [List.rtakeWhile, List.reverse_append, List.reverse_cons, List.append_assoc,
      List.takeWhile_append_of_pos hall, List.singleton_append, List.takeWhile_cons_of_neg (by decide),
      List.append_nil, List.reverse_reverse]
  rw [← hlast h, heq, hlast h']

/-- Resources of different names in snake case have different qualified names,
of one type or not. -/
theorem Resource.qualified_ne {style : KeyStyle} {r r' : Resource} (h : KeyStyle.isSnakeCase r.name)
    (h' : KeyStyle.isSnakeCase r'.name) (hne : r.name ≠ r'.name) : r.qualified style ≠ r'.qualified style := by
  intro heq
  have hchars : (r.qualified style).toList = (r'.qualified style).toList := by rw [heq]
  simp only [qualified, rendered, String.toList_append, List.append_assoc] at hchars
  have hspell := Text.eq_of_append_slash (style.slash_not_mem_spell h) (style.slash_not_mem_spell h') hchars
  exact hne (style.spell_inj_of_snakeCase h h' (String.toList_injective hspell))

namespace Node

/-! ### Siblings of any names -/

/-- Whether the fields of a branch keep its children in snake case apart: what
stands in the field of such a child is its own document, as `f` makes it, or
that of a sibling which is spelled alike and not in snake case. -/
def Separate (style : KeyStyle) (f : String → Node → Except Error Document) (children : List (String × Node))
    (fields : Entries Document) : Prop :=
  ∀ c ∈ children, KeyStyle.isSnakeCase c.1 → ∃ c' ∈ children, style.spell c'.1 = style.spell c.1 ∧
    (KeyStyle.isSnakeCase c'.1 → c' = c) ∧ ∃ d, f c'.1 c'.2 = .ok d ∧
      Entries.get? fields (style.spell c.1) = some d

variable {style : KeyStyle} {f : String → Node → Except Error Document} {children : List (String × Node)}

theorem eq_of_spelled_alike (hnodup : (Entries.names children).Nodup) {c c' : String × Node} (hc : c ∈ children)
    (hc' : c' ∈ children) (h : KeyStyle.isSnakeCase c.1) (h' : KeyStyle.isSnakeCase c'.1)
    (heq : style.spell c'.1 = style.spell c.1) : c' = c :=
  List.inj_on_of_nodup_map hnodup hc' hc (style.spell_inj_of_snakeCase h' h heq)

/-- Of the children of one spelling the last gives the value, and at most one of
them is in snake case. -/
theorem separate_of_last {fs : List (String × Document)} {fields : Entries Document}
    (hnodup : (Entries.names children).Nodup) (hfs : spellAll style f children = .ok fs)
    (hfields : ∀ key d, Entries.last? fs key = some d → Entries.get? fields key = some d) :
    Separate style f children fields := by
  intro c hc hsnake
  obtain ⟨c', hc', hspell, hlast⟩ := exists_lastSpelled style hc
  have hvalue := last?_spellAll (style.spell c.1) hfs
  rw [hlast] at hvalue
  obtain ⟨d, hd, hget⟩ := hvalue
  exact ⟨c', hc', hspell, fun hsnake' => eq_of_spelled_alike hnodup hc hc' hsnake hsnake' hspell, d, hd,
    hfields _ d hget⟩

theorem separate_ofList {fs : List (String × Document)} (hnodup : (Entries.names children).Nodup)
    (hfs : spellAll style f children = .ok fs) : Separate style f children (Entries.ofList fs) :=
  separate_of_last hnodup hfs fun key d hget => by rw [Entries.get?_ofList, hget]

/-- The name that a resource gets takes no field from its children. -/
theorem separate_ofList_cons {fs : List (String × Document)} (e : String × Document)
    (hnodup : (Entries.names children).Nodup) (hfs : spellAll style f children = .ok fs) :
    Separate style f children (Entries.ofList (e :: fs)) :=
  separate_of_last hnodup hfs fun key d hget => by
    rw [Entries.get?_ofList, Entries.last?, hget, Option.some_or]

/-! ### Siblings in snake case -/

/-- Whether children have different names, all of them in snake case. -/
structure SnakeCased (children : List (String × Node)) : Prop where
  names : (Entries.names children).Nodup
  snake : ∀ c ∈ children, KeyStyle.isSnakeCase c.1

theorem nodup_names_filter (p : String × Node → Bool) (h : (Entries.names children).Nodup) :
    (Entries.names (children.filter p)).Nodup :=
  h.sublist (List.Sublist.map _ List.filter_sublist)

theorem SnakeCased.filter (h : SnakeCased children) (p : String × Node → Bool) :
    SnakeCased (children.filter p) where
  names := nodup_names_filter p h.names
  snake := fun c hc => h.snake c (List.mem_filter.1 hc).1

/-- **Siblings in snake case are spelled differently.** -/
theorem SnakeCased.nodup_spelled (h : SnakeCased children) (style : KeyStyle) :
    (children.map fun c => style.spell c.1).Nodup := by
  refine h.names.of_map.map_on fun c hc c' hc' heq => ?_
  exact eq_of_spelled_alike h.names hc' hc (h.snake c' hc') (h.snake c hc) heq

variable {s : Scope}

/-- A field in snake case that is spelled as the name of a resource is called
so, and left out. -/
theorem SnakeCased.nodup_resourceParts (h : SnakeCased children) (name : String) :
    (Entries.names (resourceParts s name children)).Nodup := by
  have hrest := h.filter fun c => c.1 != nameField
  rw [resourceParts, Entries.names_cons, names_innerParts, List.nodup_cons]
  refine ⟨fun hmem => ?_, hrest.nodup_spelled s.style⟩
  obtain ⟨c, hc, hspell⟩ := List.mem_map.1 hmem
  have hname : c.1 = nameField := s.style.spell_inj_of_snakeCase (hrest.snake c hc) (by decide) hspell
  exact bne_iff_ne.1 (List.mem_filter.1 hc).2 hname

/-- Parts of different names are the fields, one for one. -/
theorem collected_eq_ok_iff_came {parts : List (String × Except Error Document)} {d : Document}
    (hnodup : (Entries.names parts).Nodup) :
    Document.collected parts = .ok d ↔ ∃ fields, d = .object fields ∧ parts = Entries.came fields := by
  rw [Document.collected_eq_ok_iff]
  exact exists_congr fun fields => and_congr_right fun _ => Entries.collects_iff_eq_came hnodup

/-- **Names in snake case stay apart in a document.** In camel case such a name
is read back from its spelling, and in every style different ones are spelled
differently.

Let the children of a branch have different names. Wherever the branch stands,
at the root, below it or as a resource, what stands in its document under the
spelling of a child in snake case is the document of this child, unless a
sibling takes its place whose own name is not in snake case. If the names are
all in snake case, the fields are the children, one for one and in order,
behind the name in the case of a resource, which leaves out a child called
`name`.

The list of resources has one item for each entry, and resources whose names
are different and in snake case have different names in the document and
different references. -/
theorem snake_case_kept_apart (s : Scope) :
    (s.style.camel → ∀ name, KeyStyle.isSnakeCase name → KeyStyle.unspell (s.style.spell name) = name) ∧
    (∀ name other, KeyStyle.isSnakeCase name → KeyStyle.isSnakeCase other →
      s.style.spell name = s.style.spell other → name = other) ∧
    (∀ children d, (Entries.names children).Nodup →
      ((branch children).document s = .ok d → ∃ fields, d = .object fields ∧
        Separate s.style (fun name n => n.rootChild s name) children fields) ∧
      ((branch children).inner s = .ok d → ∃ fields, d = .object fields ∧
        Separate s.style (fun _ n => n.inner s) children fields) ∧
      ∀ name, (branch children).resourceDocument s name = .ok d → ∃ fields, d = .object fields ∧
        Separate s.style (fun _ n => n.inner s) (children.filter fun c => c.1 != nameField) fields) ∧
    (∀ children d, SnakeCased children →
      ((branch children).document s = .ok d ↔ ∃ fields, d = .object fields ∧
        rootParts s children = Entries.came fields) ∧
      ((branch children).inner s = .ok d ↔ ∃ fields, d = .object fields ∧
        innerParts s children = Entries.came fields) ∧
      ∀ name, (branch children).resourceDocument s name = .ok d ↔ ∃ fields, d = .object fields ∧
        resourceParts s name children = Entries.came fields) ∧
    (∀ entries d, (branch entries).rootChild s resourcesField = .ok d ↔ ∃ items, d = .list items ∧
      List.Forall₂ (fun e item => e.2.resourceDocument s e.1 = .ok item) entries items) ∧
    ∀ r r' : Resource, KeyStyle.isSnakeCase r.name → KeyStyle.isSnakeCase r'.name → r.name ≠ r'.name →
      r.rendered s.style ≠ r'.rendered s.style ∧ r.qualified s.style ≠ r'.qualified s.style := by
  refine ⟨?_, ?_, ?_, ?_, ?_, ?_⟩
  · intro hcamel name hname
    rw [KeyStyle.unspell_eq_readBack, KeyStyle.readBack_spell hcamel hname]
  · intro name other hname hother heq
    exact s.style.spell_inj_of_snakeCase hname hother heq
  · intro children d hnodup
    refine ⟨fun h => ?_, fun h => ?_, fun name h => ?_⟩
    · obtain ⟨fs, hfs, rfl⟩ := document_branch_eq_ok.1 h
      exact ⟨_, rfl, separate_ofList hnodup hfs⟩
    · obtain ⟨fs, hfs, rfl⟩ := inner_branch_eq_ok.1 h
      exact ⟨_, rfl, separate_ofList hnodup hfs⟩
    · obtain ⟨fs, hfs, rfl⟩ := resourceDocument_branch_eq_ok.1 h
      exact ⟨_, rfl, separate_ofList_cons _ (nodup_names_filter _ hnodup) hfs⟩
  · intro children d h
    refine ⟨?_, ?_, fun name => ?_⟩
    · rw [document_branch]
      exact collected_eq_ok_iff_came (by rw [names_rootParts]; exact h.nodup_spelled s.style)
    · rw [inner_branch]
      exact collected_eq_ok_iff_came (by rw [names_innerParts]; exact h.nodup_spelled s.style)
    · rw [resourceDocument_branch]
      exact collected_eq_ok_iff_came (h.nodup_resourceParts name)
  · intro entries d
    exact rootChild_resources_eq_ok_iff
  · intro r r' hname hname' hne
    refine ⟨fun heq => ?_, Resource.qualified_ne hname hname' hne⟩
    exact hne (s.style.spell_inj_of_snakeCase hname hname' heq)

/-- Two children whose names have the same letters, in different words. -/
def twins : List (String × Node) := [("web_app", leaf (.int 1)), ("web_a_pp", leaf (.int 2))]

/-- The twins have two fields, and only a child `webApp` takes the place of the
first. -/
theorem snake_case_kept_apart_twins :
    let s : Scope := ⟨.standard, ⟨[]⟩⟩
    let mixed := twins ++ [("webApp", leaf (.int 3))]
    let app : Resource := { name := "web_app", providerType := "Web/sites" }
    let api : Resource := { name := "web_api", providerType := "Web/apis" }
    KeyStyle.unspell (s.style.spell "web_app2") = "web_app2" ∧
    (s.style.spell "web_app" = s.style.spell "web_a_pp" → "web_app" = "web_a_pp") ∧
    (branch twins).document s = .ok (.object [("webApp", .int 1), ("webAPp", .int 2)]) ∧
    SnakeCased twins ∧ (∃ fields, Document.object [("webApp", .int 1), ("webAPp", .int 2)] = .object fields ∧
      rootParts s twins = Entries.came fields) ∧
    (Entries.names mixed).Nodup ∧
    (branch mixed).inner s = .ok (.object [("webApp", .int 3), ("webAPp", .int 2)]) ∧
    (∃ fields, Document.object [("webApp", .int 3), ("webAPp", .int 2)] = .object fields ∧
      Separate s.style (fun _ n => n.inner s) mixed fields) ∧
    app.name ≠ api.name ∧ app.qualified s.style ≠ api.qualified s.style := by
  intro s mixed app api
  obtain ⟨hread, hinj, hsiblings, hsnake, -, hrefs⟩ := snake_case_kept_apart s
  have htwins : SnakeCased twins := ⟨by decide, by decide⟩
  have hmixed : (Entries.names mixed).Nodup := by decide
  have hdoc : (branch twins).document s = .ok (.object [("webApp", .int 1), ("webAPp", .int 2)]) := rfl
  have hinner : (branch mixed).inner s = .ok (.object [("webApp", .int 3), ("webAPp", .int 2)]) := rfl
  have hne : app.name ≠ api.name := by decide
  exact ⟨hread rfl _ (by decide), hinj _ _ (by decide) (by decide), hdoc, htwins, (hsnake _ _ htwins).1.1 hdoc,
    hmixed, hinner, (hsiblings _ _ hmixed).2.1 hinner, hne, (hrefs app api (by decide) (by decide) hne).2⟩

end Node
end ResourceTemplate
