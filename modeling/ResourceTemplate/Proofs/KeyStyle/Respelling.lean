/-
# Spelling a spelling

A name that has been spelled is in camel case already, so to spell it again
should change nothing. Only its first character can change: the words are
joined, and the outer underscores stay. In the upper style the first character
is what upper case has made, and upper case leaves that alone. In the lower
style it has been raised and lowered, and that gives the same again for every
character but one. The capital sharp s is lowered to `ß`, and `ß` is raised to
`SS`: so `ẞtraße` is spelled `ßtraße`, and that is spelled `sStraße`
(`respelled_sharp_s`). There it ends, since no spelling in the lower style
starts with a capital sharp s.

Key definitions: `KeyStyle.opening?`.
Key theorems: `KeyStyle.restarted_iff`, `KeyStyle.camelCase_camelCase_iff`,
`KeyStyle.respelled_sharp_s`, `KeyStyle.spell_spell_iff`.
-/
import ResourceTemplate.Proofs.KeyStyle.Spelling

namespace ResourceTemplate
namespace KeyStyle

/-- The first character of a name that is no underscore. -/
def opening? (name : List Char) : Option Char := name.find? (!isBar ·)

/-! ### The first character -/

/-- In the lower style a name starts with what a capital is lowered to. -/
theorem exists_lowered {c d : Char} {ds : List Char} (h : startIn .lower (Case.upper c) = d :: ds) :
    ∃ u ∈ Case.upper c, d ∈ Case.lower u := by
  obtain ⟨u, us, hupper⟩ := List.exists_cons_of_ne_nil (Case.upper_ne_nil c)
  obtain ⟨l, ls, hlower⟩ := List.exists_cons_of_ne_nil (Case.lower_ne_nil u)
  rw [hupper, startIn, hlower, List.cons_append] at h
  obtain ⟨rfl, -⟩ := List.cons.inj h
  refine ⟨u, ?_, ?_⟩
  · rw [hupper]
    exact List.mem_cons_self
  · rw [hlower]
    exact List.mem_cons_self

/-- A start stays as it is, but for the capital sharp s in the lower style. -/
theorem restarted_iff {initial : LetterCase} {c d : Char} {ds : List Char}
    (h : startIn initial (Case.upper c) = d :: ds) :
    startIn initial (Case.upper d) = [d] ↔ ¬ (initial = .lower ∧ c = 'ẞ') := by
  cases initial with
  | upper =>
    have hd : d ∈ Case.upper c := by
      rw [startIn] at h
      rw [h]
      exact List.mem_cons_self
    refine iff_of_true ?_ fun hlower => LetterCase.noConfusion hlower.1
    rw [startIn, Case.upper_of_mem_upper hd]
  | lower =>
    obtain ⟨u, hu, hd⟩ := exists_lowered h
    by_cases hsharp : u = 'ẞ'
    · subst hsharp
      obtain rfl : c = 'ẞ' := Case.sharp_of_mem_upper hu
      rw [Case.sharp_lower, List.mem_singleton] at hd
      subst hd
      refine iff_of_false ?_ (not_not_intro ⟨rfl, rfl⟩)
      decide +kernel
    · obtain ⟨e, he, hback⟩ := Case.exists_upper_of_mem_lower (Case.upper_of_mem_upper hu) hsharp hd
      refine iff_of_true ?_ ?_
      · rw [he, startIn, hback, List.append_nil]
      · rintro ⟨-, rfl⟩
        -- the capital sharp s is its own upper case
        rw [Case.sharp_upper] at hu
        exact hsharp (List.mem_singleton.1 hu)

/-! ### The whole name -/

theorem opening?_eq_none_iff {name : List Char} : opening? name = none ↔ name.all isBar := by
  rw [opening?, List.find?_eq_none, List.all_eq_true]
  simp

theorem not_all_of_opening {name : List Char} {c : Char} (h : opening? name = some c) : ¬ name.all isBar := by
  rw [← opening?_eq_none_iff, h]
  exact Option.some_ne_none c

/-- A name that does not consist of underscores is joined to the capital of its
first other character and more. -/
theorem joinWords_of_opening {c : Char} : ∀ {name : List Char}, opening? name = some c →
    ∃ cs, joinWords true name = Case.upper c ++ cs
  | [], h => by
    rw [opening?, List.find?_nil] at h
    exact absurd h.symm (Option.some_ne_none c)
  | d :: name, h => by
    rw [opening?, List.find?_cons] at h
    by_cases hbar : isBar d
    · rw [hbar] at h
      rw [joinWords, if_pos hbar]
      exact joinWords_of_opening h
    · rw [Bool.eq_false_iff.2 hbar] at h
      obtain rfl : d = c := Option.some.inj h
      exact ⟨joinWords false name, by rw [joinWords, if_neg hbar, if_pos rfl]⟩

/-- A core goes on from the start that the first character gets. -/
theorem exists_core (initial : LetterCase) {name : List Char} {c : Char} (h : opening? name = some c) :
    ∃ d ds cs, startIn initial (Case.upper c) = d :: ds ∧ core initial name = d :: (ds ++ cs) := by
  obtain ⟨cs, hjoin⟩ := joinWords_of_opening h
  have hupper : Case.upper c ≠ [] := Case.upper_ne_nil c
  obtain ⟨d, ds, hstart⟩ := List.exists_cons_of_ne_nil (startIn_ne_nil initial hupper)
  exact ⟨d, ds, cs, hstart, by rw [core, hjoin, startIn_append initial hupper, hstart, List.cons_append]⟩

/-- Spelled again, a name of camel case has its core started again. -/
theorem camelCase_camelCase (initial : LetterCase) {name : List Char} (h : ¬ name.all isBar) :
    camelCase initial (camelCase initial name) =
      leadingBars name ++ startIn initial (capital (core initial name)) ++ trailingBars name := by
  obtain ⟨hbars, hne⟩ := core_spec initial name
  have hjoin : joinWords true (camelCase initial name) = capital (core initial name) :=
    joinWords_between (fun _ => isBar_of_mem_leadingBars) hbars (hne h) fun _ => isBar_of_mem_trailingBars
  obtain ⟨hleading, htrailing⟩ := camelCase_outer initial h
  rw [camelCase_eq initial (camelCase initial name), hleading, htrailing, core, hjoin]

/-- **Camel case is camel case already**, but for names that start with a
capital sharp s in the lower style. -/
theorem camelCase_camelCase_iff (initial : LetterCase) (name : List Char) :
    camelCase initial (camelCase initial name) = camelCase initial name ↔
      ¬ (initial = .lower ∧ opening? name = some 'ẞ') := by
  cases hopening : opening? name with
  | none =>
    have hall : name.all isBar := opening?_eq_none_iff.1 hopening
    rw [camelCase_of_bars initial name hall, camelCase_of_bars initial name hall]
    exact iff_of_true rfl fun h => Option.some_ne_none 'ẞ' h.2.symm
  | some c =>
    have hall : ¬ name.all isBar := not_all_of_opening hopening
    obtain ⟨d, ds, cs, hstart, hcore⟩ := exists_core initial hopening
    have hraised : startIn initial (capital (core initial name)) =
        startIn initial (Case.upper d) ++ (ds ++ cs) := by
      rw [hcore, capital, startIn_append initial (Case.upper_ne_nil d)]
    calc camelCase initial (camelCase initial name) = camelCase initial name
        ↔ startIn initial (Case.upper d) ++ (ds ++ cs) = [d] ++ (ds ++ cs) := by
          rw [camelCase_camelCase initial hall, camelCase_eq, List.append_left_inj, List.append_right_inj,
            hraised, hcore, List.singleton_append]
      _ ↔ startIn initial (Case.upper d) = [d] := List.append_left_inj _
      _ ↔ ¬ (initial = .lower ∧ c = 'ẞ') := restarted_iff hstart
      _ ↔ ¬ (initial = .lower ∧ some c = some 'ẞ') := by rw [Option.some.injEq]

theorem opening?_camelCase {initial : LetterCase} {name : List Char} (h : ¬ name.all isBar) :
    opening? (camelCase initial name) = (core initial name).head? := by
  obtain ⟨hbars, hne⟩ := core_spec initial name
  obtain ⟨d, ds, hcore⟩ := List.exists_cons_of_ne_nil (hne h)
  have hleading : (leadingBars name).find? (!isBar ·) = none :=
    List.find?_eq_none.2 fun c hc => by simp [isBar_of_mem_leadingBars hc]
  have hd : isBar d = false := by
    rw [Bool.eq_false_iff]
    refine hbars d ?_
    rw [hcore]
    exact List.mem_cons_self
  rw [opening?, camelCase_eq, hcore, List.append_assoc, List.find?_append, hleading, Option.none_or,
    List.cons_append, List.find?_cons, hd]
  rfl

/-- No spelling in the lower style starts with the capital sharp s. -/
theorem opening?_camelCase_lower (name : List Char) : opening? (camelCase .lower name) ≠ some 'ẞ' := by
  cases hopening : opening? name with
  | none =>
    rw [camelCase_of_bars .lower name (opening?_eq_none_iff.1 hopening), hopening]
    exact (Option.some_ne_none 'ẞ').symm
  | some c =>
    obtain ⟨d, ds, cs, hstart, hcore⟩ := exists_core .lower hopening
    obtain ⟨u, -, hd⟩ := exists_lowered hstart
    rw [opening?_camelCase (not_all_of_opening hopening), hcore, List.head?_cons, Ne, Option.some.injEq]
    rintro rfl
    -- lower case has nothing left to lower, but the capital sharp s has
    have hlow : Case.lower 'ẞ' = ['ẞ'] := Case.lower_of_mem_lower hd
    rw [Case.sharp_lower] at hlow
    exact absurd hlow (by decide)

/-! ### Spellings -/

theorem spell_eq_iff {style : KeyStyle} (h : style.camel) (name : String) :
    style.spell name = name ↔ camelCase style.initial name.toList = name.toList := by
  rw [← String.toList_inj, toList_spell h]

/-- In the lower style the spelling of a name that starts with a capital sharp
s is spelled otherwise. -/
theorem respelled_sharp_s :
    ¬ ∀ (style : KeyStyle) (name : String), style.spell (style.spell name) = style.spell name := by
  intro h
  have hsharp := h .standard "ẞ"
  rw [spell_eq_iff rfl, toList_spell rfl, camelCase_camelCase_iff] at hsharp
  exact hsharp ⟨rfl, rfl⟩

/-- **A spelling is spelled as it is**, in every style, unless the name starts
with a capital sharp s and the style with a lower-case letter. To spell it twice
is enough for every name. -/
theorem spell_spell_iff (style : KeyStyle) (name : String) :
    (style.spell (style.spell name) = style.spell name ↔
      ¬ (style.camel ∧ style.initial = .lower ∧ opening? name.toList = some 'ẞ')) ∧
    style.spell (style.spell (style.spell name)) = style.spell (style.spell name) := by
  by_cases hcamel : style.camel
  · have hagain : ∀ name : String, style.spell (style.spell name) = style.spell name ↔
        ¬ (style.initial = .lower ∧ opening? name.toList = some 'ẞ') := fun name => by
      rw [spell_eq_iff hcamel, toList_spell hcamel, camelCase_camelCase_iff]
    constructor
    · rw [hagain]
      exact not_congr (iff_and_self.2 fun _ => hcamel)
    · rw [hagain, toList_spell hcamel]
      rintro ⟨hlower, hsharp⟩
      rw [hlower] at hsharp
      exact opening?_camelCase_lower name.toList hsharp
  · have hsame : ∀ name : String, style.spell name = name := fun name => by rw [spell, if_neg hcamel]
    refine ⟨iff_of_true (hsame _) fun h => hcamel h.1, hsame _⟩

end KeyStyle
end ResourceTemplate
