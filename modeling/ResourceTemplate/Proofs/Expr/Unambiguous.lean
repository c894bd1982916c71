/-
# Texts of expressions are unambiguous

No argument can end its literal early or be read as anything but a literal:
if two expressions have one text, they have one settled form. The names of
functions and methods and the spelled properties must be names; the texts of
arguments and of indices may be anything at all. Numbers with a fraction are
left out, for one without a fraction is written as an integer is.

Read from the left, a settled expression shows at every point what comes
next. Behind a name stands a parenthesis if it is a function or a method, and
something else if it is a property or a flag; an index is a literal if it
starts with an apostrophe; and arguments, links and expressions end before a
character that cannot go on with them (`Closed`, `Fenced`). So the characters
of an expression and what follows them determine each other
(`Expr.chars_append_inj`), by induction over the expression.

Key definitions: `Check.legible`, `Check.plain`, `Closed`, `Fenced`.
Key theorems: `Expr.chars_append_inj`, `Expr.settled_eq_of_bracketed_eq`.
-/
import ResourceTemplate.Proofs.Expr.Built
import ResourceTemplate.Proofs.Expr.Settled
import ResourceTemplate.Proofs.Text.Delimited

namespace ResourceTemplate

open Text

/-! ### What is asked of expressions -/

/-- Whether a call is of a name. -/
def Expr.isNamed : Expr → Bool
  | .call function _ => isName function
  | .linked _ _ => true

/-- Functions, methods and spelled properties are names, and no argument is a
floating-point number. -/
def Check.legible (style : KeyStyle) : Check where
  expr := Expr.isNamed
  arg
    | .float _ => false
    | .str _ | .int _ | .bool _ | .name _ | .resource _ | .expr _ => true
  link
    | .property key => isName (style.spellKey key)
    | .method name _ => isName name
    | .position _ | .member _ => true

/-- An expression is settled and legible, and its chains are flat. -/
def Check.plain : Check where
  expr e := e.isFlat && e.isNamed
  arg
    | .str _ | .int _ | .bool _ | .expr _ => true
    | .float _ | .name _ | .resource _ => false
  link
    | .property (.verbatim name) => isName name
    | .property (.styled _) => false
    | .method name _ => isName name
    | .position _ | .member _ => true

theorem Link.resolvedAllWith_isEmpty (s : Scope) (named : String → Arg) (ls : List Link) :
    (Link.resolvedAllWith s named ls).isEmpty = ls.isEmpty := by
  cases ls with
  | nil => rfl
  | cons l ls => rfl

theorem Expr.isFlat_resolvedWith (s : Scope) (named : String → Arg) : ∀ e : Expr,
    (e.resolvedWith s named).isFlat = e.isFlat
  | .call _ _ => rfl
  | .linked (.call _ _) links => by
    rw [Expr.resolvedWith, Expr.resolvedWith, Expr.isFlat, Expr.isFlat, Link.resolvedAllWith_isEmpty]
  | .linked (.linked _ _) _ => rfl

open Outcome

theorem Arg.allPass_append (k : Check) (as bs : List Arg) :
    Arg.allPass k (as ++ bs) = (Arg.allPass k as && Arg.allPass k bs) := by
  induction as with
  | nil => rw [List.nil_append, Arg.allPass, Bool.true_and]
  | cons a as ih => rw [List.cons_append, Arg.allPass, Arg.allPass, ih, Bool.and_assoc]

/-- A declared resource is two strings. -/
theorem Arg.allPass_plain_resource {s : Scope} {function name : String}
    (h : ∀ o ∈ (Arg.resource name).obligations function, o.isMet s.registry) :
    Arg.allPass .plain ((Arg.resource name).resolvedWith s .str) := by
  have hdeclared : (s.registry.find? name).isSome := h _ List.mem_cons_self
  obtain ⟨r, hr⟩ := Option.isSome_iff_exists.1 hdeclared
  rw [Arg.resolvedWith, hr]
  rfl

mutual
/-- A legible flat expression whose demands are met settles to a plain one. -/
theorem Expr.passes_plain (s : Scope) : ∀ e : Expr, (∀ o ∈ e.obligations, o.isMet s.registry) →
    e.passes .flat → e.passes (.legible s.style) → (e.resolvedWith s .str).passes .plain
  | .call function args, h, hf, hl => by
    rw [Expr.passes, Bool.and_eq_true] at hf hl
    rw [Expr.resolvedWith, Expr.passes, Arg.passes_plains s function args h hf.2 hl.2, Bool.and_true]
    exact hl.1
  | .linked base links, h, hf, hl => by
    rw [Expr.obligations, List.forall_mem_append] at h
    rw [Expr.passes, Bool.and_eq_true, Bool.and_eq_true] at hf hl
    have hflat : ((Expr.linked base links).resolvedWith s .str).isFlat := by
      rw [Expr.isFlat_resolvedWith]
      exact hf.1.1
    rw [Expr.resolvedWith] at hflat ⊢
    rw [Expr.passes, Expr.passes_plain s base h.1 hf.1.2 hl.1.2, Link.passes_plains s links h.2 hf.2 hl.2,
      Bool.and_true, Bool.and_true]
    simp [Check.plain, hflat, Expr.isNamed]
termination_by structural e => e

theorem Arg.passes_plain (s : Scope) (function : String) : ∀ a : Arg,
    (∀ o ∈ a.obligations function, o.isMet s.registry) → a.passes .flat →
    a.passes (.legible s.style) → Arg.allPass .plain (a.resolvedWith s .str)
  | .str _, _, _, _ | .int _, _, _, _ | .bool _, _, _, _ | .name _, _, _, _ => rfl
  | .float _, _, _, hl => absurd hl (by simp [Arg.passes, Check.legible])
  | .resource _, h, _, _ => Arg.allPass_plain_resource h
  | .expr e, h, hf, hl => by
    rw [Arg.passes, Bool.and_eq_true] at hf hl
    rw [Arg.resolvedWith, Arg.allPass, Arg.passes, Expr.passes_plain s e h hf.2 hl.2]
    rfl
termination_by structural a => a

theorem Link.passes_plain (s : Scope) : ∀ l : Link, (∀ o ∈ l.obligations, o.isMet s.registry) →
    l.passes .flat → l.passes (.legible s.style) → (l.resolvedWith s .str).passes .plain
  | .property _, _, _, hl => hl
  | .position _, _, _, _ | .member _, _, _, _ => rfl
  | .method name args, h, hf, hl => by
    rw [Link.passes, Bool.and_eq_true] at hf hl
    rw [Link.resolvedWith, Link.passes, Arg.passes_plains s name args h hf.2 hl.2, Bool.and_true]
    exact hl.1
termination_by structural l => l

theorem Arg.passes_plains (s : Scope) (function : String) : ∀ as : List Arg,
    (∀ o ∈ Arg.allObligations function as, o.isMet s.registry) → Arg.allPass .flat as →
    Arg.allPass (.legible s.style) as → Arg.allPass .plain (Arg.resolvedAllWith s .str as)
  | [], _, _, _ => rfl
  | a :: as, h, hf, hl => by
    rw [Arg.allObligations, List.forall_mem_append] at h
    rw [Arg.allPass, Bool.and_eq_true] at hf hl
    rw [Arg.resolvedAllWith, Arg.allPass_append, Arg.passes_plain s function a h.1 hf.1 hl.1,
      Arg.passes_plains s function as h.2 hf.2 hl.2]
    rfl
termination_by structural as => as

theorem Link.passes_plains (s : Scope) : ∀ ls : List Link,
    (∀ o ∈ Link.allObligations ls, o.isMet s.registry) → Link.allPass .flat ls →
    Link.allPass (.legible s.style) ls → Link.allPass .plain (Link.resolvedAllWith s .str ls)
  | [], _, _, _ => rfl
  | l :: ls, h, hf, hl => by
    rw [Link.allObligations, List.forall_mem_append] at h
    rw [Link.allPass, Bool.and_eq_true] at hf hl
    rw [Link.resolvedAllWith, Link.allPass, Link.passes_plain s l h.1 hf.1 hl.1,
      Link.passes_plains s ls h.2 hf.2 hl.2]
    rfl
termination_by structural ls => ls
end

/-! ### What stands behind expressions and links -/

/-- What can stand behind an expression: a mark that ends it. -/
def Closed (cs : List Char) : Prop := ∃ c rest, cs = c :: rest ∧ (c = ',' ∨ c = ')' ∨ c = ']')

/-- What can stand behind a link: a mark that ends the chain, or another
link. -/
def Fenced (cs : List Char) : Prop :=
  ∃ c rest, cs = c :: rest ∧ (c = ',' ∨ c = ')' ∨ c = ']' ∨ c = '.' ∨ c = '[')

theorem Closed.fenced {cs : List Char} (h : Closed cs) : Fenced cs := by
  obtain ⟨c, rest, hcs, hc⟩ := h
  refine ⟨c, rest, hcs, ?_⟩
  rcases hc with hc | hc | hc <;> simp [hc]

theorem Fenced.parted {cs : List Char} (h : Fenced cs) : Parted cs := by
  obtain ⟨c, rest, rfl, hc⟩ := h
  refine parted_cons rest ?_
  rcases hc with rfl | rfl | rfl | rfl | rfl <;> decide

/-- Neither a literal nor the opening of arguments stands behind a link. -/
theorem Fenced.head_ne {cs : List Char} (h : Fenced cs) :
    cs.head? ≠ some '\'' ∧ cs.head? ≠ some '(' := by
  obtain ⟨c, rest, rfl, hc⟩ := h
  rcases hc with rfl | rfl | rfl | rfl | rfl <;> simp

theorem Arg.charsMore_closed (as : List Arg) (x : List Char) : Closed (Arg.charsMore as ++ x) := by
  cases as with
  | nil => exact ⟨')', x, rfl, by simp⟩
  | cons a as => exact ⟨',', _, rfl, by simp⟩

theorem Link.exists_chars (l : Link) : ∃ c cs, l.chars = c :: cs ∧ (c = '.' ∨ c = '[') := by
  cases l with
  | property key => exact ⟨'.', _, rfl, by simp⟩
  | position index => exact ⟨'[', _, rfl, by simp⟩
  | member name => exact ⟨'[', _, rfl, by simp⟩
  | method name args => exact ⟨'.', _, rfl, by simp⟩

/-- A link does not end the chain. -/
theorem Link.eq_nil_of_closed {ls : List Link} {x : List Char} (h : Closed (Link.charsAll ls ++ x)) :
    ls = [] := by
  cases ls with
  | nil => rfl
  | cons l ls =>
    obtain ⟨c, cs, hcs, hc⟩ := l.exists_chars
    obtain ⟨d, rest, hx, hd⟩ := h
    rw [Link.charsAll, hcs, List.cons_append, List.cons_append] at hx
    obtain ⟨rfl, -⟩ := List.cons.inj hx
    rcases hc with rfl | rfl <;> simp at hd

theorem Link.charsAll_fenced (ls : List Link) {x : List Char} (hx : Closed x) :
    Fenced (Link.charsAll ls ++ x) := by
  cases ls with
  | nil => exact hx.fenced
  | cons l ls =>
    obtain ⟨c, cs, hcs, hc⟩ := l.exists_chars
    refine ⟨c, cs ++ Link.charsAll ls ++ x, by rw [Link.charsAll, hcs]; rfl, ?_⟩
    rcases hc with hc | hc <;> simp [hc]

/-! ### What stands at the start -/

/-- A name and the parenthesis behind it are read in one way. -/
theorem name_paren_inj {f g : String} {x y : List Char} (hf : isName f) (hg : isName g)
    (h : f.toList ++ '(' :: x = g.toList ++ '(' :: y) : f = g ∧ x = y := by
  obtain ⟨hfg, hxy⟩ := word_append_inj (wordChars_of_isName hf) (wordChars_of_isName hg)
    (parted_cons x (by decide)) (parted_cons y (by decide)) h
  exact ⟨String.toList_inj.1 hfg, (List.cons.inj hxy).2⟩

/-- A name that a parenthesis follows is no word that something else
follows. -/
theorem name_paren_ne {f : String} {w x y : List Char} (hf : isName f) (hw : ∀ c ∈ w, isWordChar c)
    (hy : Fenced y) : f.toList ++ '(' :: x ≠ w ++ y := by
  intro h
  obtain ⟨-, hxy⟩ := word_append_inj (wordChars_of_isName hf) hw (parted_cons x (by decide)) hy.parted h
  exact hy.head_ne.2 (by rw [← hxy]; rfl)

/-- A plain expression is a call, or a chain on a call with at least one
link. -/
theorem Expr.exists_of_plain : ∀ {e : Expr}, e.passes .plain → ∃ function args links,
    e.chars = function.toList ++ '(' :: (Arg.charsAll args ++ Link.charsAll links) ∧
    isName function ∧ Arg.allPass .plain args ∧ Link.allPass .plain links ∧
    (links = [] ∧ e = .call function args ∨ links ≠ [] ∧ e = .linked (.call function args) links)
  | .call function args, h => by
    rw [Expr.passes, Bool.and_eq_true] at h
    exact ⟨function, args, [], by simp [Expr.chars, Link.charsAll], h.1, h.2, rfl, .inl ⟨rfl, rfl⟩⟩
  | .linked (.call function args) links, h => by
    rw [Expr.passes, Expr.passes, Bool.and_eq_true, Bool.and_eq_true, Bool.and_eq_true] at h
    refine ⟨function, args, links, by simp [Expr.chars], h.1.2.1, h.1.2.2, h.2, .inr ⟨?_, rfl⟩⟩
    rintro rfl
    exact absurd h.1.1 (by simp [Check.plain, Expr.isFlat])
  | .linked (.linked _ _) _, h => absurd h (by simp [Expr.passes, Check.plain, Expr.isFlat])

/-- Only a string starts with an apostrophe. -/
theorem Arg.exists_chars : ∀ {a : Arg}, a.passes .plain →
    ∃ c cs, a.chars = c :: cs ∧ ((c = '\'' ∧ ∃ t, a = .str t) ∨ (isWordChar c ∧ ∀ t, a ≠ .str t))
  | .str text, _ => ⟨'\'', _, toList_quote text, .inl ⟨rfl, text, rfl⟩⟩
  | .int number, _ => by
    obtain ⟨c, cs, hcs, -⟩ := exists_integerDigits number
    exact ⟨c, cs, hcs, .inr ⟨wordChars_integerDigits number c (hcs ▸ List.mem_cons_self), by simp⟩⟩
  | .bool true, _ => ⟨'t', _, rfl, .inr ⟨by decide, by simp⟩⟩
  | .bool false, _ => ⟨'f', _, rfl, .inr ⟨by decide, by simp⟩⟩
  | .expr e, h => by
    rw [Arg.passes, Bool.and_eq_true] at h
    obtain ⟨f, args, links, he, hf, -⟩ := Expr.exists_of_plain h.2
    obtain ⟨c, cs, hcs, -⟩ := exists_of_isName hf
    rw [hcs] at he
    exact ⟨c, _, he, .inr ⟨wordChars_of_isName hf c (hcs ▸ List.mem_cons_self), by simp⟩⟩
  | .float _, h | .name _, h | .resource _, h => absurd h (by simp [Arg.passes, Check.plain])

theorem Arg.chars_append_ne_close {a : Arg} (ha : a.passes .plain) (x y : List Char) :
    a.chars ++ x ≠ ')' :: y := by
  obtain ⟨c, cs, hcs, hc⟩ := Arg.exists_chars ha
  intro h
  rw [hcs, List.cons_append] at h
  obtain ⟨rfl, -⟩ := List.cons.inj h
  rcases hc with ⟨hc, -⟩ | ⟨hc, -⟩ <;> exact absurd hc (by decide)

theorem Arg.chars_append_ne_quote {a : Arg} (ha : a.passes .plain) (hne : ∀ t, a ≠ .str t) (t : String)
    (x y : List Char) : a.chars ++ x ≠ (quote t).toList ++ y := by
  obtain ⟨c, cs, hcs, hc⟩ := Arg.exists_chars ha
  intro h
  rw [hcs, toList_quote, List.cons_append, List.cons_append, List.cons_append] at h
  obtain ⟨rfl, -⟩ := List.cons.inj h
  rcases hc with ⟨-, u, hu⟩ | ⟨hc, -⟩
  · exact hne u hu
  · exact absurd hc (by decide)

theorem integerDigits_append_ne_ofFlag (number : Int) (flag : Bool) (x y : List Char) :
    integerDigits number ++ x ≠ (ofFlag flag).toList ++ y := by
  obtain ⟨c, cs, hcs, hc⟩ := exists_integerDigits number
  intro h
  rw [hcs] at h
  cases flag
  · obtain ⟨rfl, -⟩ := List.cons.inj (show c :: (cs ++ x) = 'f' :: _ from h)
    exact absurd hc (by decide)
  · obtain ⟨rfl, -⟩ := List.cons.inj (show c :: (cs ++ x) = 't' :: _ from h)
    exact absurd hc (by decide)

theorem integerDigits_append_ne_quote (number : Int) (t : String) (x y : List Char) :
    integerDigits number ++ x ≠ (quote t).toList ++ y := by
  obtain ⟨c, cs, hcs, hc⟩ := exists_integerDigits number
  intro h
  rw [hcs, toList_quote] at h
  obtain ⟨rfl, -⟩ := List.cons.inj h
  exact absurd hc (by decide)

/-- An expression is no word that something else follows. -/
theorem Expr.chars_append_ne_word {e : Expr} (he : e.passes .plain) {w x y : List Char}
    (hw : ∀ c ∈ w, isWordChar c) (hy : Fenced y) : e.chars ++ x ≠ w ++ y := by
  obtain ⟨f, args, links, hchars, hf, -⟩ := Expr.exists_of_plain he
  rw [hchars, List.append_assoc, List.cons_append]
  exact name_paren_ne hf hw hy

/-! ### Reading from the left -/

mutual
/-- The characters of a plain expression and what follows them determine each
other. -/
theorem Expr.chars_append_inj : ∀ (a : Expr) {b : Expr} {x y : List Char}, a.passes .plain →
    b.passes .plain → Closed x → Closed y → a.chars ++ x = b.chars ++ y → a = b ∧ x = y
  | .call f as, b, x, y, ha, hb, hx, hy, h => by
    obtain ⟨g, bs, ms, hchars, hg, hbs, hms, hb⟩ := Expr.exists_of_plain hb
    rw [Expr.passes, Bool.and_eq_true] at ha
    rw [Expr.chars, hchars, List.append_assoc, List.append_assoc, List.cons_append, List.cons_append,
      List.append_assoc] at h
    obtain ⟨hfg, hargs⟩ := name_paren_inj ha.1 hg h
    obtain ⟨has, hlinks⟩ := Arg.charsAll_append_inj as ha.2 hbs hargs
    rcases hb with ⟨rfl, rfl⟩ | ⟨hne, -⟩
    · exact ⟨by rw [hfg, has], hlinks⟩
    · exact absurd (Link.eq_nil_of_closed (hlinks ▸ hx)) hne
  | .linked (.call f as) ls, b, x, y, ha, hb, hx, hy, h => by
    obtain ⟨g, bs, ms, hchars, hg, hbs, hms, hb⟩ := Expr.exists_of_plain hb
    rw [Expr.passes, Expr.passes, Bool.and_eq_true, Bool.and_eq_true, Bool.and_eq_true] at ha
    rw [Expr.chars, Expr.chars, hchars, List.append_assoc, List.append_assoc, List.append_assoc,
      List.cons_append, List.cons_append, List.append_assoc] at h
    obtain ⟨hfg, hargs⟩ := name_paren_inj ha.1.2.1 hg h
    obtain ⟨has, hlinks⟩ := Arg.charsAll_append_inj as ha.1.2.2 hbs hargs
    obtain ⟨hls, hxy⟩ := Link.charsAll_append_inj ls ha.2 hms hx hy hlinks
    rcases hb with ⟨rfl, -⟩ | ⟨-, rfl⟩
    · exact absurd ha.1.1 (by simp [Check.plain, Expr.isFlat, hls])
    · exact ⟨by rw [hfg, has, hls], hxy⟩
  | .linked (.linked _ _) _, _, _, _, ha, _, _, _, _ =>
    absurd ha (by simp [Expr.passes, Check.plain, Expr.isFlat])
termination_by structural a => a

theorem Arg.chars_append_inj : ∀ (a : Arg) {b : Arg} {x y : List Char}, a.passes .plain →
    b.passes .plain → Closed x → Closed y → a.chars ++ x = b.chars ++ y → a = b ∧ x = y
  | .str s, b, x, y, _, hb, hx, hy, h => by
    cases b with
    | str t =>
      obtain ⟨hst, hxy⟩ := quote_append_inj hx.fenced.head_ne.1 hy.fenced.head_ne.1 h
      exact ⟨by rw [hst], hxy⟩
    | int _ | bool _ | expr _ | float _ | name _ | resource _ =>
      exact absurd h.symm (Arg.chars_append_ne_quote hb (by simp) s y x)
  | .int m, b, x, y, ha, hb, hx, hy, h => by
    cases b with
    | str t => exact absurd h (Arg.chars_append_ne_quote ha (by simp) t x y)
    | int n =>
      obtain ⟨hmn, hxy⟩ := word_append_inj (wordChars_integerDigits m) (wordChars_integerDigits n)
        hx.fenced.parted hy.fenced.parted h
      exact ⟨by rw [integerDigits_inj hmn], hxy⟩
    | bool q => exact absurd h (integerDigits_append_ne_ofFlag m q x y)
    | expr e =>
      rw [Arg.passes, Bool.and_eq_true] at hb
      exact absurd h.symm (Expr.chars_append_ne_word hb.2 (wordChars_integerDigits m) hx.fenced)
    | float _ | name _ | resource _ => exact absurd hb Bool.false_ne_true
  | .bool p, b, x, y, ha, hb, hx, hy, h => by
    cases b with
    | str t => exact absurd h (Arg.chars_append_ne_quote ha (by simp) t x y)
    | int n => exact absurd h.symm (integerDigits_append_ne_ofFlag n p y x)
    | bool q =>
      obtain ⟨hpq, hxy⟩ := word_append_inj (wordChars_ofFlag p) (wordChars_ofFlag q)
        hx.fenced.parted hy.fenced.parted h
      exact ⟨by rw [ofFlag_inj hpq], hxy⟩
    | expr e =>
      rw [Arg.passes, Bool.and_eq_true] at hb
      exact absurd h.symm (Expr.chars_append_ne_word hb.2 (wordChars_ofFlag p) hx.fenced)
    | float _ | name _ | resource _ => exact absurd hb Bool.false_ne_true
  | .expr d, b, x, y, ha, hb, hx, hy, h => by
    have hd : d.passes .plain := by
      rw [Arg.passes, Bool.and_eq_true] at ha
      exact ha.2
    cases b with
    | str t => exact absurd h (Arg.chars_append_ne_quote ha (by simp) t x y)
    | int n => exact absurd h (Expr.chars_append_ne_word hd (wordChars_integerDigits n) hy.fenced)
    | bool q => exact absurd h (Expr.chars_append_ne_word hd (wordChars_ofFlag q) hy.fenced)
    | expr e =>
      rw [Arg.passes, Bool.and_eq_true] at hb
      obtain ⟨hde, hxy⟩ := Expr.chars_append_inj d hd hb.2 hx hy h
      exact ⟨by rw [hde], hxy⟩
    | float _ | name _ | resource _ => exact absurd hb Bool.false_ne_true
  | .float _, _, _, _, ha, _, _, _, _ | .name _, _, _, _, ha, _, _, _, _
  | .resource _, _, _, _, ha, _, _, _, _ => absurd ha Bool.false_ne_true
termination_by structural a => a

theorem Link.chars_append_inj : ∀ (l : Link) {m : Link} {x y : List Char}, l.passes .plain →
    m.passes .plain → Fenced x → Fenced y → l.chars ++ x = m.chars ++ y → l = m ∧ x = y
  | .property (.verbatim p), m, x, y, hl, hm, hx, hy, h => by
    cases m with
    | property key =>
      cases key with
      | styled _ => exact absurd hm Bool.false_ne_true
      | verbatim q =>
        obtain ⟨hpq, hxy⟩ := word_append_inj (wordChars_of_isName hl) (wordChars_of_isName hm)
          hx.parted hy.parted (List.cons.inj h).2
        exact ⟨by rw [String.toList_inj.1 hpq], hxy⟩
    | method g bs =>
      rw [Link.passes, Bool.and_eq_true] at hm
      simp only [Link.chars, List.cons_append, List.append_assoc, List.cons.injEq, true_and] at h
      exact absurd h.symm (name_paren_ne hm.1 (wordChars_of_isName hl) hx)
    | position _ | member _ => exact absurd (List.cons.inj h).1 (by decide)
  | .property (.styled _), _, _, _, hl, _, _, _, _ => absurd hl Bool.false_ne_true
  | .position i, m, x, y, _, _, _, _, h => by
    cases m with
    | position j =>
      simp only [Link.chars, List.cons_append, List.append_assoc, List.cons.injEq, true_and] at h
      obtain ⟨hij, hxy⟩ := word_append_inj (wordChars_integerDigits i) (wordChars_integerDigits j)
        (parted_cons _ (by decide)) (parted_cons _ (by decide)) h
      exact ⟨by rw [integerDigits_inj hij], (List.cons.inj hxy).2⟩
    | member q =>
      simp only [Link.chars, List.cons_append, List.append_assoc, List.cons.injEq, true_and] at h
      exact absurd h (integerDigits_append_ne_quote i q _ _)
    | property _ | method _ _ => exact absurd (List.cons.inj h).1 (by decide)
  | .member p, m, x, y, _, _, _, _, h => by
    cases m with
    | position j =>
      simp only [Link.chars, List.cons_append, List.append_assoc, List.cons.injEq, true_and] at h
      exact absurd h.symm (integerDigits_append_ne_quote j p _ _)
    | member q =>
      simp only [Link.chars, List.cons_append, List.append_assoc, List.cons.injEq, true_and] at h
      obtain ⟨hpq, hxy⟩ := quote_append_inj (by simp) (by simp) h
      exact ⟨by rw [hpq], (List.cons.inj hxy).2⟩
    | property _ | method _ _ => exact absurd (List.cons.inj h).1 (by decide)
  | .method f as, m, x, y, hl, hm, _, hy, h => by
    rw [Link.passes, Bool.and_eq_true] at hl
    cases m with
    | property key =>
      cases key with
      | styled _ => exact absurd hm Bool.false_ne_true
      | verbatim q =>
        simp only [Link.chars, List.cons_append, List.append_assoc, List.cons.injEq, true_and] at h
        exact absurd h (name_paren_ne hl.1 (wordChars_of_isName hm) hy)
    | method g bs =>
      rw [Link.passes, Bool.and_eq_true] at hm
      simp only [Link.chars, List.cons_append, List.append_assoc, List.cons.injEq, true_and] at h
      obtain ⟨hfg, hargs⟩ := name_paren_inj hl.1 hm.1 h
      obtain ⟨has, hxy⟩ := Arg.charsAll_append_inj as hl.2 hm.2 hargs
      exact ⟨by rw [hfg, has], hxy⟩
    | position _ | member _ => exact absurd (List.cons.inj h).1 (by decide)
termination_by structural l => l

/-- Arguments show where they end: by the parenthesis that closes them. -/
theorem Arg.charsAll_append_inj : ∀ (as : List Arg) {bs : List Arg} {x y : List Char},
    Arg.allPass .plain as → Arg.allPass .plain bs → Arg.charsAll as ++ x = Arg.charsAll bs ++ y →
    as = bs ∧ x = y
  | [], [], _, _, _, _, h => ⟨rfl, (List.cons.inj h).2⟩
  | [], b :: bs, x, y, _, hbs, h => by
    rw [Arg.allPass, Bool.and_eq_true] at hbs
    rw [Arg.charsAll, Arg.charsAll, List.append_assoc] at h
    exact absurd h.symm (Arg.chars_append_ne_close hbs.1 _ x)
  | a :: as, [], x, y, has, _, h => by
    rw [Arg.allPass, Bool.and_eq_true] at has
    rw [Arg.charsAll, Arg.charsAll, List.append_assoc] at h
    exact absurd h (Arg.chars_append_ne_close has.1 _ y)
  | a :: as, b :: bs, x, y, has, hbs, h => by
    rw [Arg.allPass, Bool.and_eq_true] at has hbs
    rw [Arg.charsAll, Arg.charsAll, List.append_assoc, List.append_assoc] at h
    obtain ⟨hab, hmore⟩ := Arg.chars_append_inj a has.1 hbs.1 (Arg.charsMore_closed as x)
      (Arg.charsMore_closed bs y) h
    obtain ⟨hrest, hxy⟩ := Arg.charsMore_append_inj as has.2 hbs.2 hmore
    exact ⟨by rw [hab, hrest], hxy⟩
termination_by structural as => as

theorem Arg.charsMore_append_inj : ∀ (as : List Arg) {bs : List Arg} {x y : List Char},
    Arg.allPass .plain as → Arg.allPass .plain bs → Arg.charsMore as ++ x = Arg.charsMore bs ++ y →
    as = bs ∧ x = y
  | [], [], _, _, _, _, h => ⟨rfl, (List.cons.inj h).2⟩
  | [], b :: bs, x, y, _, _, h => absurd (List.cons.inj h).1 (by decide)
  | a :: as, [], x, y, _, _, h => absurd (List.cons.inj h).1 (by decide)
  | a :: as, b :: bs, x, y, has, hbs, h => by
    rw [Arg.allPass, Bool.and_eq_true] at has hbs
    simp only [Arg.charsMore, List.cons_append, List.append_assoc, List.cons.injEq, true_and] at h
    obtain ⟨hab, hmore⟩ := Arg.chars_append_inj a has.1 hbs.1 (Arg.charsMore_closed as x)
      (Arg.charsMore_closed bs y) h
    obtain ⟨hrest, hxy⟩ := Arg.charsMore_append_inj as has.2 hbs.2 hmore
    exact ⟨by rw [hab, hrest], hxy⟩
termination_by structural as => as

theorem Link.charsAll_append_inj : ∀ (ls : List Link) {ms : List Link} {x y : List Char},
    Link.allPass .plain ls → Link.allPass .plain ms → Closed x → Closed y →
    Link.charsAll ls ++ x = Link.charsAll ms ++ y → ls = ms ∧ x = y
  | [], [], _, _, _, _, _, _, h => ⟨rfl, h⟩
  | [], m :: ms, x, y, _, _, hx, _, h => by
    rw [Link.charsAll, List.nil_append] at h
    exact absurd (Link.eq_nil_of_closed (h ▸ hx)) (List.cons_ne_nil m ms)
  | l :: ls, [], x, y, _, _, _, hy, h => by
    rw [Link.charsAll.eq_def [], List.nil_append] at h
    exact absurd (Link.eq_nil_of_closed (h.symm ▸ hy)) (List.cons_ne_nil l ls)
  | l :: ls, m :: ms, x, y, hls, hms, hx, hy, h => by
    rw [Link.allPass, Bool.and_eq_true] at hls hms
    rw [Link.charsAll, Link.charsAll, List.append_assoc, List.append_assoc] at h
    obtain ⟨hlm, hmore⟩ := Link.chars_append_inj l hls.1 hms.1 (Link.charsAll_fenced ls hx)
      (Link.charsAll_fenced ms hy) h
    obtain ⟨hrest, hxy⟩ := Link.charsAll_append_inj ls hls.2 hms.2 hx hy hmore
    exact ⟨by rw [hlm, hrest], hxy⟩
termination_by structural ls => ls
end

/-- **Texts are unambiguous.** Two expressions that calls and chaining make,
with names for their functions, methods and properties and without
floating-point arguments, settle to the same expression if they have the same
text. -/
theorem Expr.settled_eq_of_bracketed_eq (s : Scope) {a b : Expr} (ha : a.Built) (hb : b.Built)
    (hla : a.passes (.legible s.style)) (hlb : b.passes (.legible s.style)) {t : String}
    (hat : a.bracketed s = .ok t) (hbt : b.bracketed s = .ok t) : a.settled s = b.settled s := by
  obtain ⟨u, hu, hut⟩ := bind_eq_ok.1 hat
  obtain ⟨v, hv, hvt⟩ := bind_eq_ok.1 hbt
  rw [return_eq_ok] at hut hvt
  have htexts : u.toList ++ [']'] = v.toList ++ [']'] := by
    have h := congrArg String.toList (hut.trans hvt.symm)
    simpa using h
  rw [Expr.chars_settled_of_text hu, Expr.chars_settled_of_text hv] at htexts
  have hplain : (a.settled s).passes .plain := Expr.passes_plain s a (Expr.met_of_text hu) ha.flat hla
  have hplain' : (b.settled s).passes .plain := Expr.passes_plain s b (Expr.met_of_text hv) hb.flat hlb
  have hclosed : Closed [']'] := ⟨']', [], rfl, by simp⟩
  exact (Expr.chars_append_inj _ hplain hplain' hclosed hclosed htexts).1

/-- A declared resource and the two strings that it stands for settle alike,
and so do a property and its spelling. -/
theorem Expr.settled_resource_eq_settled_strings :
    let s : Scope :=
      { style := .standard, registry := { resources := [{ name := "web_app", providerType := "Web/sites" }] } }
    let a := (Expr.call "resourceId" [.resource "web_app", .str "it's"]).propertyKey (.styled "api_version")
    let b := (Expr.call "resourceId" [.str "Web/sites", .str "webApp", .str "it's"]).property "apiVersion"
    let t := "[resourceId('Web/sites', 'webApp', 'it''s').apiVersion]"
    a.Built ∧ b.Built ∧ a.passes (.legible s.style) ∧ b.passes (.legible s.style) ∧
      a.bracketed s = .ok t ∧ b.bracketed s = .ok t ∧ a.settled s = b.settled s := by
  intro s a b t
  have ha : a.Built := (Expr.Built.call _ _ (by simp)).chain_of_args_nil rfl
  have hb : b.Built := (Expr.Built.call _ _ (by simp)).chain_of_args_nil rfl
  have hla : a.passes (.legible s.style) := by decide
  have hlb : b.passes (.legible s.style) := by decide
  have hat : a.bracketed s = .ok t := eq_ok_of_toOption (by decide)
  have hbt : b.bracketed s = .ok t := eq_ok_of_toOption (by decide)
  exact ⟨ha, hb, hla, hlb, hat, hbt, Expr.settled_eq_of_bracketed_eq s ha hb hla hlb hat hbt⟩

end ResourceTemplate
