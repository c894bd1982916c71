/-
# Snake-case names can be read back

The style is made for names in snake case: words of lower-case letters and
digits that start with a letter, with one underscore between two of them. In
camel case each capital shows where a word starts, so such a name can be read
back from its spelling, whichever case the spelling starts in
(`KeyStyle.readBack_spell`). No two such names have one spelling
(`KeyStyle.spell_inj_of_snakeCase`).

The words are joined from left to right, and whether the next character opens
a word is all that is carried along; the induction carries the same flag
(`isSnakeFrom`). Reading goes from left to right too. It comes to the same to
cut the spelling before each capital and join the pieces again
(`KeyStyle.unspell`).

Key definitions: `KeyStyle.isSnakeCase`, `KeyStyle.readBack`,
`KeyStyle.unspell`.
Key theorems: `KeyStyle.readBack_spell`, `KeyStyle.unspell_eq_readBack`,
`KeyStyle.spell_inj_of_snakeCase`.
-/
import Mathlib.Data.List.SplitBy
import ResourceTemplate.KeyStyle
import ResourceTemplate.Text.Cut

namespace ResourceTemplate
namespace KeyStyle

/-! ### Names in snake case -/

/-- The characters of a word after its first. -/
def isSnakeChar (c : Char) : Bool := c.isLower || c.isDigit

/-- Whether a word is a lower-case letter with such letters and digits after
it, all of ASCII. -/
def isSnakeWord : List Char → Bool
  | [] => false
  | c :: cs => c.isLower && cs.all isSnakeChar

/-- Whether a name is made of such words with one underscore between two. -/
def isSnakeCase (name : String) : Bool := (Text.segments '_' name.toList).all isSnakeWord

/-- Whether the rest of a name is in snake case; `start` says whether a word
has to open here. -/
def isSnakeFrom : Bool → List Char → Bool
  | start, [] => !start
  | start, c :: cs =>
    if isBar c then !start && isSnakeFrom true cs
    else if start then c.isLower && isSnakeFrom false cs
    else isSnakeChar c && isSnakeFrom false cs

theorem isSnakeFrom_of_segments : ∀ cs : List Char,
    ((Text.segments '_' cs).all isSnakeWord → isSnakeFrom true cs) ∧
    ∀ w ws, Text.segments '_' cs = w :: ws → w.all isSnakeChar → ws.all isSnakeWord → isSnakeFrom false cs
  | [] => by simp [Text.segments, isSnakeWord, isSnakeFrom]
  | c :: cs => by
    obtain ⟨hopen, hgoes⟩ := isSnakeFrom_of_segments cs
    by_cases h : c = '_'
    · subst h
      constructor
      · intro hall
        simp [Text.segments, isSnakeWord] at hall
      · intro w ws hsegments _ hall
        rw [Text.segments_cons_mark] at hsegments
        obtain ⟨-, rfl⟩ := List.cons.inj hsegments
        simpa [isSnakeFrom, isBar] using hopen hall
    · obtain ⟨w, ws, hcs⟩ := List.exists_cons_of_ne_nil (Text.segments_ne_nil '_' cs)
      have hbar : isBar c = false := by simpa [isBar] using h
      rw [Text.segments_cons_of_ne h hcs]
      constructor
      · intro hall
        simp only [List.all_cons, isSnakeWord, Bool.and_eq_true] at hall
        obtain ⟨⟨hc, hw⟩, hws⟩ := hall
        simp [isSnakeFrom, hbar, hc, hgoes w ws hcs hw hws]
      · intro w' ws' heq hw' hws
        obtain ⟨rfl, rfl⟩ := List.cons.inj heq
        rw [List.all_cons, Bool.and_eq_true] at hw'
        simp [isSnakeFrom, hbar, hw'.1, hgoes w ws hcs hw'.2 hws]

/-! ### Letters -/

theorem toNat_of_isLower {c : Char} (h : c.isLower) : 97 ≤ c.toNat ∧ c.toNat ≤ 122 := by
  obtain ⟨hlow, hhigh⟩ := (Bool.and_eq_true _ _).mp h
  exact ⟨UInt32.le_iff_toNat_le.1 (of_decide_eq_true hlow), UInt32.le_iff_toNat_le.1 (of_decide_eq_true hhigh)⟩

theorem toNat_of_isUpper {c : Char} (h : c.isUpper) : 65 ≤ c.toNat ∧ c.toNat ≤ 90 := by
  obtain ⟨hlow, hhigh⟩ : 65 ≤ c.val ∧ c.val ≤ 90 := of_decide_eq_true h
  exact ⟨UInt32.le_iff_toNat_le.1 hlow, UInt32.le_iff_toNat_le.1 hhigh⟩

theorem toNat_of_isDigit {c : Char} (h : c.isDigit) : 48 ≤ c.toNat ∧ c.toNat ≤ 57 := by
  obtain ⟨hlow, hhigh⟩ := (Bool.and_eq_true _ _).mp h
  exact ⟨UInt32.le_iff_toNat_le.1 (of_decide_eq_true hlow), UInt32.le_iff_toNat_le.1 (of_decide_eq_true hhigh)⟩

/-- What holds of the lower-case letters of ASCII can be found out by trying
them all. -/
theorem forall_isLower {P : Char → Prop} (h : ∀ n : Fin 26, P (Char.ofNat (97 + n))) {c : Char}
    (hc : c.isLower) : P c := by
  obtain ⟨hlow, hhigh⟩ := toNat_of_isLower hc
  have hn : 97 + (c.toNat - 97) = c.toNat := by omega
  have hP : P (Char.ofNat (97 + (c.toNat - 97))) := h ⟨c.toNat - 97, by omega⟩
  rwa [hn, Char.ofNat_toNat] at hP

/-- A letter has one capital, which stands for it alone. -/
theorem capital_of_isLower {c : Char} (hc : c.isLower) :
    isBar c = false ∧ Case.upper c = [c.toUpper] ∧ Case.lower c.toUpper = [c] ∧
      c.toUpper.isUpper ∧ c.toUpper.toLower = c ∧ c.toLower = c :=
  forall_isLower (P := fun c => isBar c = false ∧ Case.upper c = [c.toUpper] ∧
    Case.lower c.toUpper = [c] ∧ c.toUpper.isUpper ∧ c.toUpper.toLower = c ∧ c.toLower = c)
    (by decide) hc

theorem not_isUpper_of_isSnakeChar {c : Char} (hc : isSnakeChar c) : c.isUpper = false := by
  rw [Bool.eq_false_iff]
  intro hupper
  have hcapital : 65 ≤ c.toNat ∧ c.toNat ≤ 90 := toNat_of_isUpper hupper
  rw [isSnakeChar, Bool.or_eq_true] at hc
  rcases hc with hlower | hdigit
  · have hletter : 97 ≤ c.toNat ∧ c.toNat ≤ 122 := toNat_of_isLower hlower
    omega
  · have hnumber : 48 ≤ c.toNat ∧ c.toNat ≤ 57 := toNat_of_isDigit hdigit
    omega

/-! ### Reading a spelling back -/

/-- What follows the first character of a spelling, with a word opened by each
capital. -/
def readWords : List Char → List Char
  | [] => []
  | c :: cs => if c.isUpper then '_' :: c.toLower :: readWords cs else c :: readWords cs

/-- The name in snake case that a spelling is read as: a word starts at each
capital, and the first one at the start. -/
def readBack (spelling : String) : String :=
  match spelling.toList with
  | [] => ""
  | c :: cs => String.ofList (c.toLower :: readWords cs)

/-- Joined words are read back, from the middle of a word and from the opening
of one. -/
theorem readWords_joinWords : ∀ cs : List Char,
    (isSnakeFrom false cs → readWords (joinWords false cs) = cs) ∧
    (isSnakeFrom true cs → readWords (joinWords true cs) = '_' :: cs)
  | [] => by simp [isSnakeFrom, joinWords, readWords]
  | c :: cs => by
    obtain ⟨hgoes, hopen⟩ := readWords_joinWords cs
    constructor
    · intro h
      by_cases hbar : isBar c
      · obtain rfl : c = '_' := by simpa [isBar] using hbar
        simp only [isSnakeFrom, hbar, if_true, Bool.not_false, Bool.true_and] at h
        rw [joinWords, if_pos hbar, hopen h]
      · simp only [isSnakeFrom, hbar, if_false, Bool.false_eq_true, Bool.and_eq_true] at h
        obtain ⟨hc, hcs⟩ := h
        have hlow : c.isUpper = false := not_isUpper_of_isSnakeChar hc
        rw [joinWords, if_neg hbar, if_neg Bool.false_ne_true, readWords, hlow,
          if_neg Bool.false_ne_true, hgoes hcs]
    · intro h
      by_cases hbar : isBar c
      · simp [isSnakeFrom, hbar] at h
      · simp only [isSnakeFrom, hbar, if_false, if_true, Bool.false_eq_true, Bool.and_eq_true] at h
        obtain ⟨hc, hcs⟩ := h
        obtain ⟨-, hupper, -, hcapital, hlower, -⟩ := capital_of_isLower hc
        rw [joinWords, if_neg hbar, if_pos rfl, hupper, List.singleton_append, readWords, if_pos hcapital,
          hlower, hgoes hcs]

theorem getLast_of_isSnakeFrom : ∀ {start : Bool} {cs : List Char}, isSnakeFrom start cs →
    ∀ c ∈ cs.getLast?, isBar c = false
  | _, [], _ => by simp
  | start, [c], h => by
    intro c' hc'
    obtain rfl : c = c' := by simpa using hc'
    by_cases hbar : isBar c
    · simp [isSnakeFrom, hbar] at h
    · simpa using hbar
  | start, c :: d :: cs, h => by
    have hrest : ∃ start', isSnakeFrom start' (d :: cs) := by
      rw [isSnakeFrom] at h
      by_cases hbar : isBar c
      · rw [if_pos hbar, Bool.and_eq_true] at h
        exact ⟨true, h.2⟩
      · rw [if_neg hbar] at h
        cases start <;> simp at h <;> exact ⟨false, h.2⟩
    obtain ⟨start', hrest⟩ := hrest
    rw [List.getLast?_cons_cons]
    exact getLast_of_isSnakeFrom hrest

/-- A name in snake case has no underscores around it. -/
theorem bars_of_isSnakeFrom {c : Char} {cs : List Char} (h : isSnakeFrom true (c :: cs)) :
    leadingBars (c :: cs) = [] ∧ trailingBars (c :: cs) = [] := by
  have hbar : isBar c = false := by
    cases hb : isBar c with
    | false => rfl
    | true => simp [isSnakeFrom, hb] at h
  have hdrop : (c :: cs).dropWhile isBar = c :: cs := by rw [List.dropWhile_cons, hbar]; rfl
  constructor
  · rw [leadingBars, List.takeWhile_cons, hbar]
    rfl
  · rw [trailingBars, hdrop]
    have hlast := getLast_of_isSnakeFrom h
    rw [← List.head?_reverse] at hlast
    cases hr : (c :: cs).reverse with
    | nil => rfl
    | cons d ds =>
      rw [hr] at hlast
      rw [List.takeWhile_cons, hlast d rfl]
      rfl

/-- **A snake-case name is read back from its spelling.** -/
theorem readBack_spell {style : KeyStyle} (hstyle : style.camel) {name : String} (h : isSnakeCase name) :
    readBack (style.spell name) = name := by
  have hsnake : isSnakeFrom true name.toList := (isSnakeFrom_of_segments name.toList).1 h
  rw [spell, if_pos hstyle, readBack, String.toList_ofList]
  cases hname : name.toList with
  | nil =>
    rw [hname] at hsnake
    exact absurd hsnake Bool.false_ne_true
  | cons c cs =>
    rw [hname] at hsnake
    obtain ⟨hleading, htrailing⟩ := bars_of_isSnakeFrom hsnake
    have hname' : String.ofList (c :: cs) = name := by rw [← hname, String.ofList_toList]
    by_cases hbar : isBar c
    · simp [isSnakeFrom, hbar] at hsnake
    · simp only [isSnakeFrom, hbar, if_false, if_true, Bool.false_eq_true, Bool.and_eq_true] at hsnake
      obtain ⟨hc, hcs⟩ := hsnake
      obtain ⟨-, hupper, hlower, -, hback, hsame⟩ := capital_of_isLower hc
      have hjoin : joinWords true (c :: cs) = c.toUpper :: joinWords false cs := by
        rw [joinWords, if_neg hbar, if_pos rfl, hupper, List.singleton_append]
      have hread : readWords (joinWords false cs) = cs := (readWords_joinWords cs).1 hcs
      rw [camelCase, hleading, htrailing, List.nil_append, List.append_nil, hjoin]
      cases style.initial with
      | upper => simp only [startIn, hback, hread, hname']
      | lower => simp only [startIn, hlower, List.singleton_append, hsame, hread, hname']

/-! ### Cutting before capitals -/

/-- The name in snake case that a spelling stands for: the spelling is cut
before each capital, and the pieces are joined by underscores in lower case. -/
def unspell (spelling : String) : String :=
  String.ofList (['_'].intercalate ((spelling.toList.splitBy fun _ d => !d.isUpper).map (·.map Char.toLower)))

theorem toLower_of_not_isUpper {c : Char} (h : c.isUpper = false) : c.toLower = c :=
  dif_neg (of_decide_eq_false h)

theorem isChain_cons_iff_forall {α : Type} {P : α → Prop} {a : α} {as : List α} :
    (a :: as).IsChain (fun _ b => P b) ↔ ∀ b ∈ as, P b := by
  induction as generalizing a with
  | nil => simp
  | cons b bs ih => rw [List.isChain_cons_cons, ih, List.forall_mem_cons]

/-- A piece has no capital but at its start. -/
theorem exists_cons_of_isChain {piece : List Char} (hne : piece ≠ [])
    (h : piece.IsChain fun _ d => !d.isUpper) :
    ∃ c cs, piece = c :: cs ∧ ∀ d ∈ cs, d.isUpper = false := by
  obtain ⟨c, cs, rfl⟩ := List.exists_cons_of_ne_nil hne
  refine ⟨c, cs, rfl, fun d hd => ?_⟩
  simpa using isChain_cons_iff_forall.1 h d hd

theorem readWords_append {cs ds : List Char} (h : ∀ c ∈ cs, c.isUpper = false) :
    readWords (cs ++ ds) = cs.map Char.toLower ++ readWords ds := by
  induction cs with
  | nil => rfl
  | cons c cs ih =>
    rw [List.forall_mem_cons] at h
    rw [List.cons_append, readWords, h.1, if_neg Bool.false_ne_true, ih h.2, List.map_cons,
      toLower_of_not_isUpper h.1, List.cons_append]

/-- Pieces that start with a capital, the first one apart, are read as the
words that they are. -/
theorem intercalate_pieces {c : Char} {cs : List Char} {pieces : List (List Char)}
    (hcs : ∀ d ∈ cs, d.isUpper = false)
    (hpieces : ∀ piece ∈ pieces, ∃ c cs, piece = c :: cs ∧ c.isUpper ∧ ∀ d ∈ cs, d.isUpper = false) :
    ['_'].intercalate (((c :: cs) :: pieces).map (·.map Char.toLower)) =
      c.toLower :: readWords (cs ++ pieces.flatten) := by
  induction pieces generalizing c cs with
  | nil =>
    rw [readWords_append hcs]
    simp [List.intercalate, readWords]
  | cons piece pieces ih =>
    rw [List.forall_mem_cons] at hpieces
    obtain ⟨⟨d, ds, rfl, hd, hds⟩, hpieces⟩ := hpieces
    have hrest := ih (c := d) hds hpieces
    rw [readWords_append hcs, List.flatten_cons, List.cons_append, readWords, if_pos hd, ← hrest]
    simp [List.intercalate]

/-- **Cutting before capitals reads the words.** -/
theorem unspell_eq_readBack (spelling : String) : unspell spelling = readBack spelling := by
  rw [unspell, readBack]
  obtain ⟨hflat, hne, hchain, hnext⟩ :=
    List.splitBy_eq_iff.1 (Eq.refl (spelling.toList.splitBy fun _ d => !d.isUpper))
  generalize (spelling.toList.splitBy fun _ d => !d.isUpper) = pieces at hflat hne hchain hnext
  have hpieces : ∀ piece ∈ pieces, ∃ c cs, piece = c :: cs ∧ ∀ d ∈ cs, d.isUpper = false :=
    fun piece hpiece => exists_cons_of_isChain (fun h => hne (h ▸ hpiece)) (hchain piece hpiece)
  rw [hflat]
  cases pieces with
  | nil => rfl
  | cons piece pieces =>
    rw [List.forall_mem_cons] at hpieces
    obtain ⟨⟨c, cs, rfl, hcs⟩, hpieces⟩ := hpieces
    -- Each cut stands before a capital, so every piece but the first starts with one.
    have hcut : ∀ piece ∈ pieces, ∃ h, (piece.head h).isUpper := by
      refine isChain_cons_iff_forall.1 (hnext.imp ?_)
      rintro before piece ⟨_, h, hupper⟩
      exact ⟨h, by simpa using hupper⟩
    have hcapital : ∀ piece ∈ pieces, ∃ c cs, piece = c :: cs ∧ c.isUpper ∧ ∀ d ∈ cs, d.isUpper = false := by
      intro piece hpiece
      obtain ⟨d, ds, rfl, hds⟩ := hpieces piece hpiece
      obtain ⟨_, hd⟩ := hcut _ hpiece
      exact ⟨d, ds, rfl, hd, hds⟩
    rw [intercalate_pieces hcs hcapital, List.flatten_cons, List.cons_append]

/-- **No two snake-case names have one spelling.** -/
theorem spell_inj_of_snakeCase (style : KeyStyle) {name other : String} (h : isSnakeCase name)
    (h' : isSnakeCase other) (heq : style.spell name = style.spell other) : name = other := by
  by_cases hstyle : style.camel
  · rw [← readBack_spell hstyle h, heq, readBack_spell hstyle h']
  · rwa [spell, spell, if_neg hstyle, if_neg hstyle] at heq

/-! ### The characters of spellings -/

theorem snakeChar_of_isSnakeFrom {d : Char} : ∀ {start : Bool} {cs : List Char}, isSnakeFrom start cs →
    d ∈ cs → isBar d ∨ isSnakeChar d
  | _, [], _, hd => absurd hd List.not_mem_nil
  | start, c :: cs, h, hd => by
    rw [isSnakeFrom] at h
    by_cases hbar : isBar c
    · rw [if_pos hbar, Bool.and_eq_true] at h
      rcases List.mem_cons.1 hd with rfl | hd
      · exact .inl hbar
      · exact snakeChar_of_isSnakeFrom h.2 hd
    · have hc : isSnakeChar c ∧ isSnakeFrom false cs := by
        rw [if_neg hbar] at h
        cases start <;> simp_all [isSnakeChar]
      rcases List.mem_cons.1 hd with rfl | hd
      · exact .inr hc.1
      · exact snakeChar_of_isSnakeFrom hc.2 hd

/-- Reading back keeps what is no capital. -/
theorem mem_readWords {d : Char} (hd : d.isUpper = false) {cs : List Char} (h : d ∈ cs) : d ∈ readWords cs := by
  induction cs with
  | nil => exact absurd h List.not_mem_nil
  | cons c cs ih =>
    rw [readWords]
    rcases List.mem_cons.1 h with rfl | h
    · rw [hd, if_neg Bool.false_ne_true]
      exact List.mem_cons_self
    · by_cases hc : c.isUpper
      · rw [if_pos hc]
        exact List.mem_cons_of_mem _ (List.mem_cons_of_mem _ (ih h))
      · rw [if_neg hc]
        exact List.mem_cons_of_mem _ (ih h)

theorem mem_readBack {d : Char} (hd : d.isUpper = false) {spelling : String} (h : d ∈ spelling.toList) :
    d ∈ (readBack spelling).toList := by
  rw [readBack]
  cases hs : spelling.toList with
  | nil =>
    rw [hs] at h
    exact absurd h List.not_mem_nil
  | cons c cs =>
    rw [hs] at h
    rw [String.toList_ofList]
    rcases List.mem_cons.1 h with rfl | h
    · rw [toLower_of_not_isUpper hd]
      exact List.mem_cons_self
    · exact List.mem_cons_of_mem _ (mem_readWords hd h)

/-- No slash stands in the spelling of a name in snake case. -/
theorem slash_not_mem_spell (style : KeyStyle) {name : String} (h : isSnakeCase name) :
    '/' ∉ (style.spell name).toList := by
  have hname : '/' ∉ name.toList := by
    intro hmem
    have hslash := snakeChar_of_isSnakeFrom ((isSnakeFrom_of_segments name.toList).1 h) hmem
    exact absurd hslash (by decide)
  by_cases hstyle : style.camel
  · intro hmem
    have hread := mem_readBack (by decide) hmem
    rw [readBack_spell hstyle h] at hread
    exact hname hread
  · rwa [spell, if_neg hstyle]

example : isSnakeCase "web_app2" ∧ ¬ isSnakeCase "web__app" ∧ ¬ isSnakeCase "webApp" := by decide

end KeyStyle
end ResourceTemplate
