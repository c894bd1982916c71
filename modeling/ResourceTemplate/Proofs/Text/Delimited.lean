/-
# Texts that show where they end

Where two texts go on alike and both start with a word, they start with the
same word: a word ends before the first character that can stand in none. A
literal ends with the first apostrophe that is not doubled, and an integer is
a word of its own. So what stands at the start of a text is read off it in
one way only.

Key definitions: `Text.isWordChar`, `Text.isName`, `Text.Parted`.
Key theorems: `Text.word_append_inj`, `Text.escape_append_inj`,
`Text.integerDigits_inj`.
-/
import ResourceTemplate.Text.Quoted
import ResourceTemplate.Text.Scalar

namespace ResourceTemplate
namespace Text

/-- The characters of names and numbers. -/
def isWordChar (c : Char) : Bool := c.isAlphanum || c == '-'

/-- Whether a text is a name: ASCII letters and digits, of which a letter
comes first. -/
def isName (text : String) : Bool :=
  match text.toList with
  | [] => false
  | c :: cs => c.isAlpha && cs.all Char.isAlphanum

/-- What can stand behind a word: nothing that would make it longer. -/
def Parted (cs : List Char) : Prop := ∀ c ∈ cs.head?, isWordChar c = false

theorem parted_cons {c : Char} (cs : List Char) (h : isWordChar c = false) : Parted (c :: cs) := by
  intro x hx
  rw [List.head?_cons, Option.mem_some_iff] at hx
  rwa [← hx]

/-! ### Words -/

/-- Words are read in one way: a word and what is parted from it determine
each other. -/
theorem word_append_inj : ∀ {v w x y : List Char}, (∀ c ∈ v, isWordChar c) → (∀ c ∈ w, isWordChar c) →
    Parted x → Parted y → v ++ x = w ++ y → v = w ∧ x = y
  | [], [], _, _, _, _, _, _, h => ⟨rfl, h⟩
  | [], c :: w, x, y, _, hw, hx, _, h => by
    have hc := hw c List.mem_cons_self
    rw [hx c (by rw [← List.nil_append x, h]; rfl)] at hc
    exact absurd hc (by decide)
  | c :: v, [], x, y, hv, _, _, hy, h => by
    have hc := hv c List.mem_cons_self
    rw [hy c (by rw [← List.nil_append y, ← h]; rfl)] at hc
    exact absurd hc (by decide)
  | c :: v, d :: w, x, y, hv, hw, hx, hy, h => by
    obtain ⟨hcd, hrest⟩ := List.cons.inj h
    obtain ⟨hvw, hxy⟩ := word_append_inj (fun e he => hv e (List.mem_cons_of_mem _ he))
      (fun e he => hw e (List.mem_cons_of_mem _ he)) hx hy hrest
    exact ⟨by rw [hcd, hvw], hxy⟩

theorem isWordChar_of_alphanum {c : Char} (h : c.isAlphanum) : isWordChar c := by
  simp [isWordChar, h]

/-- A name starts with a letter. -/
theorem exists_of_isName {text : String} (h : isName text) :
    ∃ c cs, text.toList = c :: cs ∧ c.isAlpha := by
  unfold isName at h
  split at h
  · exact absurd h (by decide)
  · rename_i c cs hcs
    rw [Bool.and_eq_true] at h
    exact ⟨c, cs, hcs, h.1⟩

theorem wordChars_of_isName {text : String} (h : isName text) : ∀ c ∈ text.toList, isWordChar c := by
  unfold isName at h
  split at h
  · exact absurd h (by decide)
  · rename_i c cs hcs
    rw [Bool.and_eq_true, List.all_eq_true] at h
    intro d hd
    rw [hcs, List.mem_cons] at hd
    rcases hd with rfl | hd
    · exact isWordChar_of_alphanum (by simp [Char.isAlphanum, h.1])
    · exact isWordChar_of_alphanum (h.2 d hd)

/-! ### Literals -/

/-- A literal ends in one place: an apostrophe inside it is doubled, and the
one that ends it is not. -/
theorem escape_append_inj : ∀ {s t x y : List Char}, x.head? ≠ some '\'' → y.head? ≠ some '\'' →
    escape s ++ '\'' :: x = escape t ++ '\'' :: y → s = t ∧ x = y
  | [], [], _, _, _, _, h => ⟨rfl, (List.cons.inj h).2⟩
  | [], d :: t, x, y, hx, _, h => by
    by_cases hd : d = '\''
    · simp only [escape, hd, if_true, List.nil_append, List.cons_append, List.cons.injEq, true_and] at h
      exact absurd (by rw [h]; rfl) hx
    · simp only [escape, hd, if_false, List.nil_append, List.cons_append, List.cons.injEq] at h
      exact absurd h.1.symm hd
  | c :: s, [], x, y, _, hy, h => by
    by_cases hc : c = '\''
    · simp only [escape, hc, if_true, List.nil_append, List.cons_append, List.cons.injEq, true_and] at h
      exact absurd (by rw [← h]; rfl) hy
    · simp only [escape, hc, if_false, List.nil_append, List.cons_append, List.cons.injEq, false_and] at h
  | c :: s, d :: t, x, y, hx, hy, h => by
    have hcd : c = d ∧ escape s ++ '\'' :: x = escape t ++ '\'' :: y := by
      by_cases hc : c = '\'' <;> by_cases hd : d = '\''
      · simpa [escape, hc, hd] using h
      · simp only [escape, hc, hd, if_true, if_false, List.cons_append, List.cons.injEq] at h
        exact absurd h.1.symm hd
      · simp only [escape, hc, hd, if_true, if_false, List.cons_append, List.cons.injEq, false_and] at h
      · simpa [escape, hc, hd] using h
    obtain ⟨hst, hxy⟩ := escape_append_inj hx hy hcd.2
    exact ⟨by rw [hcd.1, hst], hxy⟩

/-- Literals are read in one way if no apostrophe follows. -/
theorem quote_append_inj {s t : String} {x y : List Char} (hx : x.head? ≠ some '\'')
    (hy : y.head? ≠ some '\'') (h : (quote s).toList ++ x = (quote t).toList ++ y) : s = t ∧ x = y := by
  rw [toList_quote, toList_quote] at h
  simp only [List.cons_append, List.append_assoc, List.nil_append, List.cons.injEq, true_and] at h
  obtain ⟨hst, h⟩ := escape_append_inj hx hy h
  exact ⟨String.toList_inj.1 hst, h⟩

/-! ### Integers and flags -/

theorem toDigits_inj {m n : Nat} (h : Nat.toDigits 10 m = Nat.toDigits 10 n) : m = n := by
  rw [← Nat.ofDigitChars_ten_toDigits (n := m), h, Nat.ofDigitChars_ten_toDigits]

theorem isDigit_of_mem_toDigits {n : Nat} {c : Char} (h : c ∈ Nat.toDigits 10 n) : c.isDigit :=
  Nat.isDigit_of_mem_toDigits (by omega) (by omega) h

theorem minus_not_mem_toDigits (n : Nat) : '-' ∉ Nat.toDigits 10 n := by
  intro h
  exact absurd (isDigit_of_mem_toDigits h) (by decide)

/-- Every integer has digits of its own. -/
theorem integerDigits_inj : ∀ {a b : Int}, integerDigits a = integerDigits b → a = b
  | .ofNat m, .ofNat n, h => by rw [toDigits_inj h]
  | .negSucc m, .negSucc n, h => by
    have hmn := toDigits_inj (List.cons.inj h).2
    rw [Nat.succ.inj hmn]
  | .ofNat m, .negSucc n, h => by
    have hm : '-' ∈ Nat.toDigits 10 m := by
      rw [show Nat.toDigits 10 m = '-' :: Nat.toDigits 10 (n + 1) from h]
      exact List.mem_cons_self
    exact absurd hm (minus_not_mem_toDigits m)
  | .negSucc m, .ofNat n, h => by
    have hn : '-' ∈ Nat.toDigits 10 n := by
      rw [← show '-' :: Nat.toDigits 10 (m + 1) = Nat.toDigits 10 n from h]
      exact List.mem_cons_self
    exact absurd hn (minus_not_mem_toDigits n)

/-- An integer starts with a digit or a minus sign. -/
theorem exists_integerDigits (a : Int) :
    ∃ c cs, integerDigits a = c :: cs ∧ (c.isDigit || c == '-') := by
  cases a with
  | ofNat n =>
    obtain ⟨c, cs, hcs⟩ := List.exists_cons_of_ne_nil (Nat.toDigits_ne_nil (n := n) (b := 10))
    have hc : c.isDigit := isDigit_of_mem_toDigits (hcs ▸ List.mem_cons_self)
    exact ⟨c, cs, hcs, by simp [hc]⟩
  | negSucc n => exact ⟨'-', Nat.toDigits 10 (n + 1), rfl, by decide⟩

theorem wordChars_integerDigits (a : Int) : ∀ c ∈ integerDigits a, isWordChar c := by
  have hdigits : ∀ n, ∀ c ∈ Nat.toDigits 10 n, isWordChar c := fun n c hc =>
    isWordChar_of_alphanum (by simp [Char.isAlphanum, isDigit_of_mem_toDigits hc])
  cases a with
  | ofNat n => exact hdigits n
  | negSucc n =>
    intro c hc
    rcases List.mem_cons.1 hc with rfl | hc
    · decide
    · exact hdigits (n + 1) c hc

theorem wordChars_ofFlag (flag : Bool) : ∀ c ∈ (ofFlag flag).toList, isWordChar c := by
  rw [← List.all_eq_true]
  cases flag <;> decide

theorem ofFlag_inj {a b : Bool} (h : (ofFlag a).toList = (ofFlag b).toList) : a = b := by
  revert h
  cases a <;> cases b <;> decide

end Text
end ResourceTemplate
