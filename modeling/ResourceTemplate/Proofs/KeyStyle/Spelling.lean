/-
# What a spelling keeps of a name

A name in camel case is put together from its words, which are what stands
between its underscores: each word starts in upper case, and in the lower
style the first one is then lower-cased again. So what stands between the
outer underscores of a spelling holds no underscore, whatever the case maps
make of the first characters, and it is not empty if the name has a word. That
is why a spelling has the outer underscores of its name, no more and no fewer
(`camelCase_outer`). In a name of ASCII every character has one upper and one
lower case, and the words are kept up to the case of their first characters
(`exists_recased`).

Key definitions: `KeyStyle.words`, `KeyStyle.capital`, `KeyStyle.core`,
`KeyStyle.Recased`.
Key theorems: `KeyStyle.joinWords_eq_flatMap`, `KeyStyle.core_spec`,
`KeyStyle.camelCase_outer`, `KeyStyle.exists_recased`,
`KeyStyle.spell_keeps_characters`.
-/
import Mathlib.Data.List.DropRight
import Mathlib.Data.List.Forall2
import ResourceTemplate.KeyStyle
import ResourceTemplate.Proofs.Text.Case
import ResourceTemplate.Text.Cut

namespace ResourceTemplate
namespace KeyStyle

/-! ### Words -/

/-- The words of a name: what stands between its underscores. -/
def words (name : List Char) : List (List Char) := (Text.segments '_' name).filter (!·.isEmpty)

/-- A word that starts in upper case. -/
def capital : List Char → List Char
  | [] => []
  | c :: cs => Case.upper c ++ cs

theorem isBar_iff {c : Char} : isBar c ↔ c = '_' := beq_iff_eq

theorem flatten_words (name : List Char) : (words name).flatten = name.filter (!isBar ·) := by
  rw [words, List.flatten_filter_not_isEmpty, Text.flatten_segments]
  rfl

/-- Joining goes on with a word that has begun, and puts the words behind it
together. -/
theorem joinWords_segments : ∀ cs : List Char,
    joinWords true cs = (Text.segments '_' cs).flatMap capital ∧
    ∀ w ws, Text.segments '_' cs = w :: ws → joinWords false cs = w ++ ws.flatMap capital
  | [] => by simp [Text.segments, joinWords, capital]
  | c :: cs => by
    obtain ⟨hopen, hgoes⟩ := joinWords_segments cs
    by_cases h : c = '_'
    · subst h
      rw [Text.segments_cons_mark]
      constructor
      · rw [joinWords, if_pos (isBar_iff.2 rfl), hopen]
        rfl
      · intro w ws hsegments
        obtain ⟨rfl, rfl⟩ := List.cons.inj hsegments
        rw [joinWords, if_pos (isBar_iff.2 rfl), hopen, List.nil_append]
    · have hbar : ¬ isBar c := mt isBar_iff.1 h
      obtain ⟨w, ws, hcs⟩ := List.exists_cons_of_ne_nil (Text.segments_ne_nil '_' cs)
      rw [Text.segments_cons_of_ne h hcs]
      constructor
      · rw [joinWords, if_neg hbar, if_pos rfl, hgoes w ws hcs, List.flatMap_cons, capital, List.append_assoc]
      · intro w' ws' hsegments
        obtain ⟨rfl, rfl⟩ := List.cons.inj hsegments
        rw [joinWords, if_neg hbar, if_neg Bool.false_ne_true, hgoes w ws hcs, List.cons_append]

theorem flatMap_capital_filter (ws : List (List Char)) :
    (ws.filter (!·.isEmpty)).flatMap capital = ws.flatMap capital := by
  induction ws with
  | nil => rfl
  | cons w ws ih =>
    cases w with
    | nil => rw [List.filter_cons_of_neg (by simp), ih]; rfl
    | cons c cs => rw [List.filter_cons_of_pos (by simp), List.flatMap_cons, List.flatMap_cons, ih]

/-- **Joining puts the words together**, each with a capital. -/
theorem joinWords_eq_flatMap (name : List Char) : joinWords true name = (words name).flatMap capital := by
  rw [(joinWords_segments name).1, words, flatMap_capital_filter]

/-! ### What stands between the outer underscores -/

/-- What a name becomes between its outer underscores. -/
def core (initial : LetterCase) (name : List Char) : List Char := startIn initial (joinWords true name)

theorem not_bar_of_mem_upper {c d : Char} (hc : ¬ isBar c) (hd : d ∈ Case.upper c) : ¬ isBar d := by
  intro hbar
  obtain rfl : d = '_' := isBar_iff.1 hbar
  exact hc (isBar_iff.2 (Case.bar_of_mem_upper hd))

theorem not_bar_of_mem_joinWords {d : Char} : ∀ (start : Bool) (cs : List Char),
    d ∈ joinWords start cs → ¬ isBar d
  | start, [], hd => by
    rw [joinWords] at hd
    exact absurd hd List.not_mem_nil
  | start, c :: cs, hd => by
    rw [joinWords] at hd
    by_cases hbar : isBar c
    · rw [if_pos hbar] at hd
      exact not_bar_of_mem_joinWords true cs hd
    · rw [if_neg hbar] at hd
      cases start with
      | true =>
        rw [if_pos rfl] at hd
        rcases List.mem_append.1 hd with hd | hd
        · exact not_bar_of_mem_upper hbar hd
        · exact not_bar_of_mem_joinWords false cs hd
      | false =>
        rw [if_neg Bool.false_ne_true] at hd
        rcases List.mem_cons.1 hd with rfl | hd
        · exact hbar
        · exact not_bar_of_mem_joinWords false cs hd

theorem joinWords_ne_nil : ∀ (start : Bool) {cs : List Char}, ¬ cs.all isBar → joinWords start cs ≠ []
  | start, [], h => absurd rfl h
  | start, c :: cs, h => by
    rw [joinWords]
    by_cases hbar : isBar c
    · rw [if_pos hbar]
      rw [List.all_cons, hbar, Bool.true_and] at h
      exact joinWords_ne_nil true h
    · rw [if_neg hbar]
      cases start with
      | true =>
        rw [if_pos rfl]
        exact List.append_ne_nil_of_left_ne_nil (Case.upper_ne_nil c) _
      | false =>
        rw [if_neg Bool.false_ne_true]
        exact List.cons_ne_nil _ _

theorem capital_ne_nil {w : List Char} (hw : w ≠ []) : capital w ≠ [] := by
  obtain ⟨c, cs, rfl⟩ := List.exists_cons_of_ne_nil hw
  exact List.append_ne_nil_of_left_ne_nil (Case.upper_ne_nil c) cs

theorem startIn_append (initial : LetterCase) {cs : List Char} (h : cs ≠ []) (ds : List Char) :
    startIn initial (cs ++ ds) = startIn initial cs ++ ds := by
  obtain ⟨c, cs, rfl⟩ := List.exists_cons_of_ne_nil h
  cases initial with
  | upper => rfl
  | lower => rw [List.cons_append, startIn, startIn, List.append_assoc]

theorem startIn_ne_nil (initial : LetterCase) {cs : List Char} (h : cs ≠ []) : startIn initial cs ≠ [] := by
  obtain ⟨c, cs, rfl⟩ := List.exists_cons_of_ne_nil h
  cases initial with
  | upper => exact h
  | lower => exact List.append_ne_nil_of_left_ne_nil (Case.lower_ne_nil c) _

theorem not_bar_of_mem_startIn {d : Char} : ∀ (initial : LetterCase) {cs : List Char},
    (∀ c ∈ cs, ¬ isBar c) → d ∈ startIn initial cs → ¬ isBar d
  | .upper, cs, h, hd => h d (by rwa [startIn] at hd)
  | .lower, [], _, hd => by
    rw [startIn] at hd
    exact absurd hd List.not_mem_nil
  | .lower, c :: cs, h, hd => by
    rw [List.forall_mem_cons] at h
    rw [startIn] at hd
    rcases List.mem_append.1 hd with hd | hd
    · intro hbar
      obtain rfl : d = '_' := isBar_iff.1 hbar
      exact h.1 (isBar_iff.2 (Case.bar_of_mem_lower hd))
    · exact h.2 d hd

/-- **The core of a name holds no underscore**, and something if the name does
not consist of underscores. -/
theorem core_spec (initial : LetterCase) (name : List Char) :
    (∀ c ∈ core initial name, ¬ isBar c) ∧ (¬ name.all isBar → core initial name ≠ []) := by
  constructor
  · intro c hc
    exact not_bar_of_mem_startIn initial (fun _ hd => not_bar_of_mem_joinWords true name hd) hc
  · intro hname
    exact startIn_ne_nil initial (joinWords_ne_nil true hname)

/-! ### The outer underscores -/

theorem camelCase_eq (initial : LetterCase) (name : List Char) :
    camelCase initial name = leadingBars name ++ core initial name ++ trailingBars name := rfl

theorem reverse_of_bars {cs : List Char} (h : ∀ c ∈ cs, isBar c) : cs.reverse = cs := by
  have hall : cs = List.replicate cs.length '_' :=
    List.eq_replicate_of_mem fun c hc => isBar_iff.1 (h c hc)
  rw [hall, List.reverse_replicate]

theorem isBar_of_mem_leadingBars {name : List Char} {c : Char} (h : c ∈ leadingBars name) : isBar c :=
  List.mem_takeWhile_imp h

theorem isBar_of_mem_trailingBars {name : List Char} {c : Char} (h : c ∈ trailingBars name) : isBar c :=
  List.mem_takeWhile_imp h

section Outer

variable {lead mid trail : List Char}

/-- The underscores around a text without underscores are the outer ones of the
whole. -/
theorem outerBars_append (hlead : ∀ c ∈ lead, isBar c) (hmid : ∀ c ∈ mid, ¬ isBar c) (hne : mid ≠ [])
    (htrail : ∀ c ∈ trail, isBar c) :
    leadingBars (lead ++ mid ++ trail) = lead ∧ trailingBars (lead ++ mid ++ trail) = trail := by
  obtain ⟨d, ds, rfl⟩ := List.exists_cons_of_ne_nil hne
  have hd : ¬ isBar d := hmid d List.mem_cons_self
  have hdrop : (lead ++ (d :: ds) ++ trail).dropWhile isBar = d :: ds ++ trail := by
    rw [List.append_assoc, List.dropWhile_append_of_pos hlead, List.cons_append, List.dropWhile_cons_of_neg hd]
  constructor
  · rw [leadingBars, List.append_assoc, List.takeWhile_append_of_pos hlead, List.cons_append,
      List.takeWhile_cons_of_neg hd, List.append_nil]
  · have hlast : (d :: ds).reverse.takeWhile isBar = [] := by
      obtain ⟨e, es, hes⟩ := List.exists_cons_of_ne_nil (mt List.reverse_eq_nil_iff.1 hne)
      have he : e ∈ d :: ds := by
        rw [← List.mem_reverse, hes]
        exact List.mem_cons_self
      rw [hes, List.takeWhile_cons_of_neg (hmid e he)]
    rw [trailingBars, hdrop, List.reverse_append, reverse_of_bars htrail, List.takeWhile_append_of_pos htrail,
      hlast, List.append_nil]

theorem joinWords_append_bars (hmid : ∀ c ∈ mid, ¬ isBar c) (htrail : trail.all isBar) :
    joinWords false (mid ++ trail) = mid := by
  induction mid with
  | nil => exact joinWords_of_bars false trail htrail
  | cons c cs ih =>
    rw [List.forall_mem_cons] at hmid
    rw [List.cons_append, joinWords, if_neg hmid.1, if_neg Bool.false_ne_true, ih hmid.2]

/-- Around one word underscores make no difference. -/
theorem joinWords_between (hlead : ∀ c ∈ lead, isBar c) (hmid : ∀ c ∈ mid, ¬ isBar c) (hne : mid ≠ [])
    (htrail : ∀ c ∈ trail, isBar c) : joinWords true (lead ++ mid ++ trail) = capital mid := by
  obtain ⟨d, ds, rfl⟩ := List.exists_cons_of_ne_nil hne
  induction lead with
  | nil =>
    rw [List.forall_mem_cons] at hmid
    rw [List.nil_append, List.cons_append, joinWords, if_neg hmid.1, if_pos rfl,
      joinWords_append_bars hmid.2 (List.all_eq_true.2 htrail), capital]
  | cons c cs ih =>
    rw [List.forall_mem_cons] at hlead
    rw [List.cons_append, List.cons_append, joinWords, if_pos hlead.1]
    exact ih hlead.2

end Outer

/-- **A spelling has the outer underscores of its name.** -/
theorem camelCase_outer (initial : LetterCase) {name : List Char} (h : ¬ name.all isBar) :
    leadingBars (camelCase initial name) = leadingBars name ∧
    trailingBars (camelCase initial name) = trailingBars name := by
  obtain ⟨hbars, hne⟩ := core_spec initial name
  rw [camelCase_eq]
  exact outerBars_append (fun _ => isBar_of_mem_leadingBars) hbars (hne h) fun _ => isBar_of_mem_trailingBars

/-- What is behind the first other character has the last underscores. -/
theorem trailingBars_eq_rtakeWhile {name : List Char} (h : ¬ name.all isBar) :
    trailingBars name = name.rtakeWhile isBar := by
  have hbehind : ¬ ∀ c ∈ (name.dropWhile isBar).reverse, isBar c := by
    intro hall
    refine h ?_
    rw [← List.takeWhile_append_dropWhile (p := isBar) (l := name), List.all_append, Bool.and_eq_true]
    refine ⟨List.all_eq_true.2 fun c => isBar_of_mem_leadingBars, List.all_eq_true.2 fun c hc => ?_⟩
    exact hall c (List.mem_reverse.2 hc)
  have hlength : ((name.dropWhile isBar).reverse.takeWhile isBar).length ≠
      (name.dropWhile isBar).reverse.length := by
    intro heq
    exact hbehind (List.takeWhile_eq_self_iff.1 ((List.takeWhile_prefix isBar).eq_of_length heq))
  have hname : name.reverse = (name.dropWhile isBar).reverse ++ (name.takeWhile isBar).reverse := by
    rw [← List.reverse_append, List.takeWhile_append_dropWhile]
  calc trailingBars name
      = (trailingBars name).reverse := (reverse_of_bars fun _ => isBar_of_mem_trailingBars).symm
    _ = name.rtakeWhile isBar := by
      rw [List.rtakeWhile, hname, List.takeWhile_append, if_neg hlength, trailingBars]

/-! ### Names of ASCII -/

/-- One word is another up to the case of its first character. -/
inductive Recased : List Char → List Char → Prop
  | intro {c d : Char} (cs : List Char) (h : d.toLower = c.toLower) : Recased (c :: cs) (d :: cs)

theorem toUpper_of_ascii {c : Char} (hc : c.toNat < 0x80) :
    c.toUpper.toNat < 0x80 ∧ c.toUpper.toLower = c.toLower ∧ c.toLower.toLower = c.toLower :=
  Case.forall_ascii (P := fun c => c.toUpper.toNat < 0x80 ∧ c.toUpper.toLower = c.toLower ∧
    c.toLower.toLower = c.toLower) (by decide) hc

theorem recased_capital {w : List Char} (hw : w ≠ []) (hascii : ∀ c ∈ w, c.toNat < 0x80) :
    Recased w (capital w) := by
  obtain ⟨c, cs, rfl⟩ := List.exists_cons_of_ne_nil hw
  have hc : c.toNat < 0x80 := hascii c List.mem_cons_self
  rw [capital, Case.upper_of_ascii hc, List.singleton_append]
  exact .intro cs (toUpper_of_ascii hc).2.1

/-- The first of the words in the case in which a name starts. -/
theorem recased_startIn (initial : LetterCase) {w : List Char} (hw : w ≠ [])
    (hascii : ∀ c ∈ w, c.toNat < 0x80) :
    Recased w (startIn initial (capital w)) := by
  cases initial with
  | upper => exact recased_capital hw hascii
  | lower =>
    obtain ⟨c, cs, rfl⟩ := List.exists_cons_of_ne_nil hw
    have hc : c.toNat < 0x80 := hascii c List.mem_cons_self
    obtain ⟨hupper, hcase, hlower⟩ := toUpper_of_ascii hc
    rw [capital, Case.upper_of_ascii hc, List.singleton_append, startIn, Case.lower_of_ascii hupper, hcase,
      List.singleton_append]
    exact .intro cs hlower

theorem ne_nil_of_mem_words {name w : List Char} (h : w ∈ words name) : w ≠ [] := by
  have hw := (List.mem_filter.1 h).2
  simpa using hw

theorem mem_of_mem_words {name w : List Char} (h : w ∈ words name) {c : Char} (hc : c ∈ w) : c ∈ name := by
  have hflat : c ∈ (words name).flatten := List.mem_flatten.2 ⟨w, h, hc⟩
  rw [flatten_words] at hflat
  exact (List.mem_filter.1 hflat).1

/-- **The core of a name of ASCII is its words**, recased. -/
theorem exists_recased (initial : LetterCase) {name : List Char} (hascii : ∀ c ∈ name, c.toNat < 0x80) :
    ∃ ws, core initial name = ws.flatten ∧ List.Forall₂ Recased (words name) ws := by
  have hwords : ∀ w ∈ words name, w ≠ [] ∧ ∀ c ∈ w, c.toNat < 0x80 := fun w hw =>
    ⟨ne_nil_of_mem_words hw, fun c hc => hascii c (mem_of_mem_words hw hc)⟩
  rw [core, joinWords_eq_flatMap]
  cases hname : words name with
  | nil =>
    refine ⟨[], ?_, .nil⟩
    cases initial <;> rfl
  | cons w ws =>
    rw [hname, List.forall_mem_cons] at hwords
    obtain ⟨⟨hw, hfirst⟩, hrest⟩ := hwords
    refine ⟨startIn initial (capital w) :: ws.map capital, ?_, .cons (recased_startIn initial hw hfirst) ?_⟩
    · rw [List.flatMap_cons, startIn_append initial (capital_ne_nil hw), List.flatten_cons, List.flatMap_def]
    · rw [List.forall₂_map_right_iff, List.forall₂_same]
      exact fun v hv => recased_capital (hrest v hv).1 (hrest v hv).2

/-! ### Spellings -/

theorem toList_spell {style : KeyStyle} (h : style.camel) (name : String) :
    (style.spell name).toList = camelCase style.initial name.toList := by
  rw [spell, if_pos h, String.toList_ofList]

theorem filter_camelCase (initial : LetterCase) (name : List Char) :
    (camelCase initial name).filter (!isBar ·) = core initial name := by
  have hleading : (leadingBars name).filter (!isBar ·) = [] :=
    List.filter_eq_nil_iff.2 fun c hc => by simp [isBar_of_mem_leadingBars hc]
  have htrailing : (trailingBars name).filter (!isBar ·) = [] :=
    List.filter_eq_nil_iff.2 fun c hc => by simp [isBar_of_mem_trailingBars hc]
  have hcore : (core initial name).filter (!isBar ·) = core initial name :=
    List.filter_eq_self.2 fun c hc => by simpa using (core_spec initial name).1 c hc
  rw [camelCase_eq, List.filter_append, List.filter_append, hleading, hcore, htrailing, List.nil_append,
    List.append_nil]

theorem not_all_camelCase (initial : LetterCase) {name : List Char} (h : ¬ name.all isBar) :
    ¬ (camelCase initial name).all isBar := by
  obtain ⟨hbars, hne⟩ := core_spec initial name
  obtain ⟨c, cs, hcore⟩ := List.exists_cons_of_ne_nil (hne h)
  have hc : c ∈ core initial name := by
    rw [hcore]
    exact List.mem_cons_self
  intro hall
  rw [camelCase_eq, List.all_append, List.all_append, Bool.and_eq_true, Bool.and_eq_true] at hall
  exact hbars c hc (List.all_eq_true.1 hall.1.2 c hc)

/-- **A spelling keeps all but the inner underscores.** In camel case a name of
underscores stays as it is. Any other starts and ends with the underscores that
it started and ended with, and has none between them. The characters of a name
of ASCII that are no underscores, which are those of its words, come in the
same order, and each is the same up to the case of the first of each word. -/
theorem spell_keeps_characters {style : KeyStyle} (h : style.camel) (name : String) :
    let before := name.toList
    let after := (style.spell name).toList
    (before.all isBar → style.spell name = name) ∧
    after.takeWhile isBar = before.takeWhile isBar ∧ after.rtakeWhile isBar = before.rtakeWhile isBar ∧
    (¬ before.all isBar → ∃ middle, after = before.takeWhile isBar ++ middle ++ before.rtakeWhile isBar ∧
      middle ≠ [] ∧ ∀ c ∈ middle, ¬ isBar c) ∧
    ((∀ c ∈ before, c.toNat < 0x80) → before.filter (!isBar ·) = (words before).flatten ∧
      ∃ ws, after.filter (!isBar ·) = ws.flatten ∧ List.Forall₂ Recased (words before) ws) := by
  intro before after
  have hafter : after = camelCase style.initial before := toList_spell h name
  have hascii : (∀ c ∈ before, c.toNat < 0x80) → before.filter (!isBar ·) = (words before).flatten ∧
      ∃ ws, after.filter (!isBar ·) = ws.flatten ∧ List.Forall₂ Recased (words before) ws := by
    intro hascii
    rw [hafter, filter_camelCase]
    exact ⟨(flatten_words before).symm, exists_recased style.initial hascii⟩
  by_cases hall : before.all isBar
  · have hsame : after = before := by rw [hafter, camelCase_of_bars style.initial before hall]
    refine ⟨fun _ => String.toList_injective hsame, ?_, ?_, fun hnot => absurd hall hnot, hascii⟩
    · rw [hsame]
    · rw [hsame]
  · obtain ⟨hleading, htrailing⟩ := camelCase_outer style.initial hall
    rw [trailingBars_eq_rtakeWhile hall, trailingBars_eq_rtakeWhile (not_all_camelCase _ hall),
      ← hafter] at htrailing
    obtain ⟨hbars, hne⟩ := core_spec style.initial before
    refine ⟨fun hall' => absurd hall' hall, ?_, htrailing,
      fun _ => ⟨core style.initial before, ?_, hne hall, hbars⟩, hascii⟩
    · rw [hafter]
      exact hleading
    · rw [hafter, camelCase_eq, trailingBars_eq_rtakeWhile hall]
      rfl

/-- In the style of new templates the words of `__$schema__ab_9C_` keep their
characters, and the outer underscores stay. -/
theorem spell_keeps_characters_schema :
    standard.camel ∧ ¬ "__$schema__ab_9C_".toList.all isBar ∧
    (∀ c ∈ "__$schema__ab_9C_".toList, c.toNat < 0x80) ∧
    (standard.spell "__$schema__ab_9C_").toList.takeWhile isBar = ['_', '_'] ∧
    (standard.spell "__$schema__ab_9C_").toList.rtakeWhile isBar = ['_'] ∧
    ∃ ws, (standard.spell "__$schema__ab_9C_").toList.filter (!isBar ·) = ws.flatten ∧
      List.Forall₂ Recased ["$schema".toList, "ab".toList, "9C".toList] ws := by
  have hascii : ∀ c ∈ "__$schema__ab_9C_".toList, c.toNat < 0x80 := by simp
  have hcamel : standard.camel := rfl
  obtain ⟨-, hleading, htrailing, -, hwords⟩ := spell_keeps_characters hcamel "__$schema__ab_9C_"
  exact ⟨hcamel, by decide, hascii, hleading, htrailing, (hwords hascii).2⟩

end KeyStyle
end ResourceTemplate
