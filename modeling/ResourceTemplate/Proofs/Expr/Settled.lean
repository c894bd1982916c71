/-
# Expressions without names to spell or resources to look up

An expression is settled by doing beforehand what its text does on the way:
it is resolved, and the names among its arguments stand as strings. The
characters of a settled expression depend on nothing else, and they are the
text of the expression it was settled from: this text is that of the settled
expression in every scope, and in the scope that spells nothing and declares
nothing the text of an expression is the characters that it has as it stands.

Key definitions: `Expr.settled`, `Expr.chars`, `Scope.bare`.
Key theorems: `Expr.chars_of_text`, `Expr.chars_settled_of_text`.
-/
import ResourceTemplate.Proofs.Expr.Resolved

namespace ResourceTemplate

/-- An expression with its names spelled and its resources looked up; the
names stand as strings. -/
def Expr.settled (s : Scope) (e : Expr) : Expr := e.resolvedWith s .str

/-! ### The characters of an expression as it stands -/

mutual
/-- The characters of an expression; keys and resources stand under the names
that they have. -/
def Expr.chars : Expr → List Char
  | .call function args => function.toList ++ '(' :: Arg.charsAll args
  | .linked base links => base.chars ++ Link.charsAll links
termination_by structural e => e

/-- The characters of an argument. -/
def Arg.chars : Arg → List Char
  | .str text => (Text.quote text).toList
  | .int number => Text.integerDigits number
  | .float number => number.argumentText.toList
  | .bool flag => (Text.ofFlag flag).toList
  | .name key => (Text.quote key.raw).toList
  | .resource name => (Text.quote name).toList
  | .expr e => e.chars
termination_by structural a => a

/-- The characters of a link. -/
def Link.chars : Link → List Char
  | .property key => '.' :: key.raw.toList
  | .position index => '[' :: (Text.integerDigits index ++ [']'])
  | .member name => '[' :: ((Text.quote name).toList ++ [']'])
  | .method name args => '.' :: (name.toList ++ '(' :: Arg.charsAll args)
termination_by structural l => l

/-- The characters of arguments, with the parenthesis that closes them. -/
def Arg.charsAll : List Arg → List Char
  | [] => [')']
  | a :: as => a.chars ++ Arg.charsMore as
termination_by structural as => as

/-- The characters of arguments behind an argument. -/
def Arg.charsMore : List Arg → List Char
  | [] => [')']
  | a :: as => ',' :: ' ' :: (a.chars ++ Arg.charsMore as)
termination_by structural as => as

/-- The characters of links. -/
def Link.charsAll : List Link → List Char
  | [] => []
  | l :: ls => l.chars ++ Link.charsAll ls
termination_by structural ls => ls
end

/-- The characters of arguments are their texts with a comma and a blank
between any two. -/
theorem Arg.charsAll_eq (as : List Arg) : Arg.charsAll as =
    (", ".intercalate (as.map fun a => String.ofList a.chars)).toList ++ [')'] := by
  cases as with
  | nil => rfl
  | cons a as =>
    rw [Arg.charsAll, List.map_cons]
    induction as generalizing a with
    | nil => simp [Arg.charsMore, String.intercalate_singleton]
    | cons b bs ih =>
      rw [Arg.charsMore, ih b, List.map_cons, String.intercalate_cons_cons]
      simp

/-! ### The text of an expression -/

open Outcome Obligation

/-- The scope that spells nothing and declares nothing. -/
def Scope.bare : Scope := { style := .verbatim }

mutual
/-- **In the bare scope the text of an expression is its characters.** -/
theorem Expr.chars_of_text : ∀ (e : Expr) {t : String}, e.text .bare = .ok t → t.toList = e.chars
  | .call function args, t, h => by
    rw [Expr.text] at h
    obtain ⟨ts, hts, ht⟩ := bind_eq_ok.1 h
    rw [return_eq_ok] at ht
    rw [Expr.chars, Arg.charsAll_eq, ← Arg.chars_of_texts function args hts, ← ht]
    simp
  | .linked base links, t, h => by
    rw [Expr.text] at h
    obtain ⟨u, hu, h⟩ := bind_eq_ok.1 h
    obtain ⟨v, hv, ht⟩ := bind_eq_ok.1 h
    rw [return_eq_ok] at ht
    rw [Expr.chars, ← Expr.chars_of_text base hu, ← Link.chars_of_texts links hv, ← ht, String.toList_append]
termination_by structural e => e

theorem Arg.chars_of_text (function : String) : ∀ (a : Arg) {ts : List String},
    a.text .bare function = .ok ts → ts = [String.ofList a.chars]
  | .str _, ts, h | .float _, ts, h | .bool _, ts, h | .int _, ts, h => by
    rw [Arg.text, return_eq_ok] at h
    rw [← h]
    simp [Arg.chars, Text.ofInt]
  | .name key, ts, h => by
    rw [Arg.text, return_eq_ok] at h
    rw [← h, Scope.bare, KeyStyle.spellKey_verbatim, Arg.chars, String.ofList_toList]
  | .resource name, ts, h => by
    rw [Arg.text] at h
    obtain ⟨r, hr, -⟩ := bind_eq_ok.1 h
    -- nothing is declared here
    exact absurd (show Except.error _ = Except.ok r from hr) (by simp)
  | .expr e, ts, h => by
    rw [Arg.text] at h
    obtain ⟨t, ht, h⟩ := bind_eq_ok.1 h
    rw [return_eq_ok] at h
    rw [← h, Arg.chars, ← Expr.chars_of_text e ht, String.ofList_toList]
termination_by structural a => a

theorem Link.chars_of_text : ∀ (l : Link) {t : String}, l.text .bare = .ok t → t.toList = l.chars
  | .property key, t, h => by
    rw [Link.text, return_eq_ok] at h
    rw [← h, Scope.bare, KeyStyle.spellKey_verbatim, Link.chars, String.toList_append]
    rfl
  | .position _, t, h | .member _, t, h => by
    rw [Link.text, return_eq_ok] at h
    rw [← h]
    simp [Link.chars, Text.ofInt]
  | .method name args, t, h => by
    rw [Link.text] at h
    obtain ⟨ts, hts, ht⟩ := bind_eq_ok.1 h
    rw [return_eq_ok] at ht
    rw [Link.chars, Arg.charsAll_eq, ← Arg.chars_of_texts name args hts, ← ht]
    simp
termination_by structural l => l

theorem Arg.chars_of_texts (function : String) : ∀ (as : List Arg) {ts : List String},
    Arg.texts .bare function as = .ok ts → ts = as.map fun b => String.ofList b.chars
  | [], ts, h => by
    rw [Arg.texts, return_eq_ok] at h
    rw [← h]
    rfl
  | a :: as, ts, h => by
    rw [Arg.texts] at h
    obtain ⟨us, hus, h⟩ := bind_eq_ok.1 h
    obtain ⟨vs, hvs, h⟩ := bind_eq_ok.1 h
    rw [return_eq_ok] at h
    rw [List.map_cons, ← Arg.chars_of_texts function as hvs, ← h, Arg.chars_of_text function a hus]
    rfl
termination_by structural as => as

theorem Link.chars_of_texts : ∀ (ls : List Link) {t : String}, Link.texts .bare ls = .ok t →
    t.toList = Link.charsAll ls
  | [], t, h => by
    rw [Link.texts, return_eq_ok] at h
    rw [← h]
    rfl
  | l :: ls, t, h => by
    rw [Link.texts] at h
    obtain ⟨u, hu, h⟩ := bind_eq_ok.1 h
    obtain ⟨v, hv, h⟩ := bind_eq_ok.1 h
    rw [return_eq_ok] at h
    rw [Link.charsAll, ← Link.chars_of_text l hu, ← Link.chars_of_texts ls hv, ← h, String.toList_append]
termination_by structural ls => ls
end

/-- An expression that has a text has what it demands. -/
theorem Expr.met_of_text {s : Scope} {e : Expr} {t : String} (h : e.text s = .ok t) :
    ∀ o ∈ e.obligations, o.isMet s.registry := by
  rw [← firstError_eq_none_iff, ← Expr.failure?_text, failure?_eq_none_iff]
  exact ⟨t, h⟩

/-- **The text of an expression is what its settled form reads as.** -/
theorem Expr.chars_settled_of_text {s : Scope} {e : Expr} {t : String} (h : e.text s = .ok t) :
    t.toList = (e.settled s).chars := by
  have hcovers : Covers s.registry Scope.bare.registry e.obligations :=
    covers_of_met (Expr.met_of_text h) Scope.bare.registry
  have htext : (e.settled s).text .bare = .ok t := by
    rw [Expr.settled, Expr.text_resolvedWith Arg.quotes_str e hcovers, h]
  exact Expr.chars_of_text _ htext

end ResourceTemplate
