/-
# Expressions resolved before they are written

Writing an expression looks up its resources and spells its keys on the way.
Both can be done beforehand: a declared resource becomes two strings, its
provider type and its name, and a key is spelled and from then on kept as it
is. What a spelled name among the arguments stands as is left open
(`Expr.resolvedWith`), as long as it reads as the quoted name
(`Arg.Quotes`): a name that is kept as it is does (`Expr.resolved`), and so
does a string. The resolved expression has the text of the expression it came
from, in every scope that declares no resource that was left over
(`Expr.text_resolvedWith`); if none was left over, in every scope.

Key definitions: `Expr.resolvedWith`, `Arg.Quotes`, `Expr.resolved`.
Key theorems: `Expr.text_resolvedWith`, `Expr.bracketed_resolved`.
-/
import ResourceTemplate.Proofs.Obligation

namespace ResourceTemplate

mutual
/-- An expression with its resources looked up and its keys spelled; a name
among the arguments becomes what `named` makes of its spelling. -/
def Expr.resolvedWith (s : Scope) (named : String → Arg) : Expr → Expr
  | .call function args => .call function (Arg.resolvedAllWith s named args)
  | .linked base links => .linked (base.resolvedWith s named) (Link.resolvedAllWith s named links)
termination_by structural e => e

/-- The arguments that an argument resolves to: a declared resource to two
strings, and one that is not declared to itself. -/
def Arg.resolvedWith (s : Scope) (named : String → Arg) : Arg → List Arg
  | .str text => [.str text]
  | .int number => [.int number]
  | .float number => [.float number]
  | .bool flag => [.bool flag]
  | .name key => [named (s.style.spellKey key)]
  | .resource name =>
    match s.registry.find? name with
    | some r => [.str r.providerType, .str (r.rendered s.style)]
    | none => [.resource name]
  | .expr e => [.expr (e.resolvedWith s named)]
termination_by structural a => a

/-- A link with its key spelled and its arguments resolved. -/
def Link.resolvedWith (s : Scope) (named : String → Arg) : Link → Link
  | .property key => .property (.verbatim (s.style.spellKey key))
  | .position index => .position index
  | .member name => .member name
  | .method name args => .method name (Arg.resolvedAllWith s named args)
termination_by structural l => l

/-- The arguments that arguments resolve to, in order. -/
def Arg.resolvedAllWith (s : Scope) (named : String → Arg) : List Arg → List Arg
  | [] => []
  | a :: as => a.resolvedWith s named ++ Arg.resolvedAllWith s named as
termination_by structural as => as

/-- Links, each resolved. -/
def Link.resolvedAllWith (s : Scope) (named : String → Arg) : List Link → List Link
  | [] => []
  | l :: ls => l.resolvedWith s named :: Link.resolvedAllWith s named ls
termination_by structural ls => ls
end

/-- An expression with its resources looked up and its keys spelled, which are
from then on kept as they are. -/
def Expr.resolved (s : Scope) (e : Expr) : Expr :=
  e.resolvedWith s fun name => .name (.verbatim name)

/-- Whether what names become reads as the names, quoted, in every scope. -/
def Arg.Quotes (named : String → Arg) : Prop :=
  ∀ s function name, (named name).text s function = .ok [Text.quote name]

theorem Arg.quotes_str : Arg.Quotes .str := fun _ _ _ => rfl

theorem Arg.quotes_verbatim : Arg.Quotes fun name => .name (.verbatim name) := fun _ _ _ => rfl

/-! ### Texts of arguments -/

theorem Arg.texts_singleton (s : Scope) (function : String) (a : Arg) :
    Arg.texts s function [a] = a.text s function := by
  rw [Arg.texts, Arg.texts]
  cases a.text s function with
  | error e => rfl
  | ok t => exact congrArg Except.ok (List.append_nil t)

/-- Arguments are written one after the other, and the first that fails
decides. -/
theorem Arg.texts_append (s : Scope) (function : String) (as bs : List Arg) :
    Arg.texts s function (as ++ bs) = (do
      let ts ← Arg.texts s function as
      let us ← Arg.texts s function bs
      return ts ++ us) := by
  induction as with
  | nil =>
    cases h : Arg.texts s function bs <;> simp [Arg.texts, h, bind, Except.bind, pure, Except.pure]
  | cons a as ih =>
    rw [List.cons_append, Arg.texts, Arg.texts, ih]
    cases a.text s function with
    | error e => rfl
    | ok t =>
      cases Arg.texts s function as with
      | error e => rfl
      | ok ts =>
        cases Arg.texts s function bs with
        | error e => rfl
        | ok us => simp [bind, Except.bind, pure, Except.pure, List.append_assoc]

/-! ### The text of a resolved expression -/

namespace Obligation

/-- Whether, of the resources that are in demand, one registry declares all
that another one declares. -/
def Covers (g g' : Registry) (os : List Obligation) : Prop :=
  ∀ name requester, declared name requester ∈ os → (g'.find? name).isSome → (g.find? name).isSome

theorem covers_append {g g' : Registry} {os more : List Obligation} :
    Covers g g' (os ++ more) ↔ Covers g g' os ∧ Covers g g' more := by
  simp only [Covers, List.mem_append, or_imp, forall_and]

/-- Nothing is declared in the empty registry. -/
theorem covers_empty (g : Registry) (os : List Obligation) : Covers g .empty os :=
  fun _ _ _ h => absurd h Bool.false_ne_true

theorem covers_of_met {g : Registry} {os : List Obligation} (h : ∀ o ∈ os, o.isMet g) (g' : Registry) :
    Covers g g' os :=
  fun _ _ ho _ => h _ ho

theorem Covers.find?_eq_none {g g' : Registry} {name : String} {requester : Requester}
    (h : Covers g g' [.declared name requester]) (hg : g.find? name = none) : g'.find? name = none := by
  have hmet := h name requester List.mem_cons_self
  rw [hg] at hmet
  simpa using hmet

end Obligation

open Obligation

variable {s s' : Scope} {named : String → Arg}

/-- Two literals stand for a declared resource; one that is not declared fails
in both scopes alike. -/
theorem Arg.texts_resolved_resource (function name : String)
    (h : Covers s.registry s'.registry [.declared name (.ofFunction function)]) :
    Arg.texts s' function ((Arg.resource name).resolvedWith s named) =
      (Arg.resource name).text s function := by
  rw [Arg.resolvedWith, Arg.text, Registry.resolve]
  cases hr : s.registry.find? name with
  | some r => rfl
  | none =>
    rw [Arg.texts_singleton, Arg.text, Registry.resolve, h.find?_eq_none hr]
    rfl

mutual
/-- **A resolved expression has the text of the expression.** -/
theorem Expr.text_resolvedWith (hnamed : Arg.Quotes named) : ∀ e : Expr,
    Covers s.registry s'.registry e.obligations → (e.resolvedWith s named).text s' = e.text s
  | .call function args, h => by
    rw [Expr.resolvedWith, Expr.text, Expr.text, Arg.texts_resolvedAllWith hnamed function args h]
  | .linked base links, h => by
    rw [Expr.obligations, covers_append] at h
    rw [Expr.resolvedWith, Expr.text, Expr.text, Expr.text_resolvedWith hnamed base h.1,
      Link.texts_resolvedAllWith hnamed links h.2]
termination_by structural e => e

theorem Arg.texts_resolvedWith (hnamed : Arg.Quotes named) (function : String) : ∀ a : Arg,
    Covers s.registry s'.registry (a.obligations function) →
    Arg.texts s' function (a.resolvedWith s named) = a.text s function
  | .resource name, h => Arg.texts_resolved_resource function name h
  | .expr e, h => by
    rw [Arg.resolvedWith, Arg.texts_singleton, Arg.text, Arg.text, Expr.text_resolvedWith hnamed e h]
  | .name key, _ => by
    rw [Arg.resolvedWith, Arg.texts_singleton, hnamed]
    rfl
  | .str _, _ | .int _, _ | .float _, _ | .bool _, _ => rfl
termination_by structural a => a

theorem Link.text_resolvedWith (hnamed : Arg.Quotes named) : ∀ l : Link,
    Covers s.registry s'.registry l.obligations → (l.resolvedWith s named).text s' = l.text s
  | .method name args, h => by
    rw [Link.resolvedWith, Link.text, Link.text, Arg.texts_resolvedAllWith hnamed name args h]
  | .property _, _ | .position _, _ | .member _, _ => rfl
termination_by structural l => l

theorem Arg.texts_resolvedAllWith (hnamed : Arg.Quotes named) (function : String) : ∀ as : List Arg,
    Covers s.registry s'.registry (Arg.allObligations function as) →
    Arg.texts s' function (Arg.resolvedAllWith s named as) = Arg.texts s function as
  | [], _ => rfl
  | a :: as, h => by
    rw [Arg.allObligations, covers_append] at h
    rw [Arg.resolvedAllWith, Arg.texts_append, Arg.texts, Arg.texts_resolvedWith hnamed function a h.1,
      Arg.texts_resolvedAllWith hnamed function as h.2]
termination_by structural as => as

theorem Link.texts_resolvedAllWith (hnamed : Arg.Quotes named) : ∀ ls : List Link,
    Covers s.registry s'.registry (Link.allObligations ls) →
    Link.texts s' (Link.resolvedAllWith s named ls) = Link.texts s ls
  | [], _ => rfl
  | l :: ls, h => by
    rw [Link.allObligations, covers_append] at h
    rw [Link.resolvedAllWith, Link.texts, Link.texts, Link.text_resolvedWith hnamed l h.1,
      Link.texts_resolvedAllWith hnamed ls h.2]
termination_by structural ls => ls
end

theorem Expr.bracketed_resolved {e : Expr} (h : Covers s.registry s'.registry e.obligations) :
    (e.resolved s).bracketed s' = e.bracketed s := by
  rw [Expr.bracketed, Expr.bracketed, Expr.resolved, Expr.text_resolvedWith Arg.quotes_verbatim e h]

end ResourceTemplate
