/-
# Chains are flat and written link by link

Expressions come from calls, from calls on values, from chaining properties,
indices and methods, and from the functions of the template language. All of
these come down to calls and chaining (`Expr.obtained_iff_built`), so at every
depth a chain hangs off a call and has a link. An expression is thus a call and
the links behind it, and appending links lengthens this one list, whether they
are appended to a call or to a chain (`Expr.chainAll_eq_linked`).

The text follows the list: it is the text of the expression and behind it the
texts of the links, and what fails first decides, the expression before its
links (`Expr.text_chainAll`). Brackets stand around the outermost expression
alone; as an argument an expression is one literal, its text without them.

Key definitions: `Expr.Obtained`, `Expr.head`, `Expr.links`.
Key theorems: `Expr.obtained_iff_built`, `Expr.chainAll_eq_linked`,
`Expr.text_chainAll`, `Expr.Obtained.written_link_by_link`.
-/
import ResourceTemplate.Expr.Intrinsic
import ResourceTemplate.Proofs.Expr.Built
import ResourceTemplate.Proofs.Expr.Resolved
import ResourceTemplate.Value.Argument

namespace ResourceTemplate

open Outcome

/-! ### Where expressions come from -/

namespace Intrinsic

/-- The functions of one argument. -/
def unaries : List (Arg → Expr) := [int, base64, string, length, toLower, toUpper, trim]

/-- The functions of two arguments. -/
def binaries : List (Arg → Arg → Expr) := [add, sub, mul, div, modulo, split, uri]

/-- The functions of any number of arguments. -/
def variadics : List (List Arg → Expr) :=
  [concat, replace, substring, uniqueString, padLeft, copyIndex, listKeys, providers, reference, resourceId]

/-- The functions without arguments. -/
def constants : List Expr := [deployment, resourceGroup, subscription]

/-- The functions of a key. -/
def keyed : List (Key → Expr) := [parameters, templateVariables]

/-- Each function is a call under a name of its own. -/
theorem functions_are_calls :
    (∀ f ∈ unaries, ∃ function, ∀ a, f a = .call function [a]) ∧
    (∀ f ∈ binaries, ∃ function, ∀ a b, f a b = .call function [a, b]) ∧
    (∀ f ∈ variadics, ∃ function, ∀ args, f args = .call function args) ∧
    (∀ e ∈ constants, ∃ function, e = .call function []) ∧
    ∀ f ∈ keyed, ∃ function, ∀ key, f key = .call function [.name key] := by
  simp only [unaries, binaries, variadics, constants, keyed, List.forall_mem_cons, List.not_mem_nil,
    false_implies, implies_true, and_true]
  and_intros
  all_goals exact ⟨_, by intros; rfl⟩

end Intrinsic

/-- The expressions that calls, chaining and the functions of the template
language give; the expressions among their arguments are such expressions
too. -/
inductive Expr.Obtained : Expr → Prop
  | call (function : String) (args : List Arg) (h : ∀ x, Arg.expr x ∈ args → Expr.Obtained x) :
      Expr.Obtained (.call function args)
  | callOn {function : String} {values : List Value} {e : Expr} (he : Expr.callOn function values = .ok e)
      (h : ∀ x, Value.expr x ∈ values → Expr.Obtained x) : Expr.Obtained e
  | chain {e : Expr} (he : Expr.Obtained e) (link : Link) (h : ∀ x, Arg.expr x ∈ link.args → Expr.Obtained x) :
      Expr.Obtained (e.chain link)
  | property {e : Expr} (he : Expr.Obtained e) (name : String) : Expr.Obtained (e.property name)
  | propertyKey {e : Expr} (he : Expr.Obtained e) (key : Key) : Expr.Obtained (e.propertyKey key)
  | atPosition {e : Expr} (he : Expr.Obtained e) (index : Int) : Expr.Obtained (e.atPosition index)
  | atName {e : Expr} (he : Expr.Obtained e) (name : String) : Expr.Obtained (e.atName name)
  | method {e : Expr} (he : Expr.Obtained e) (name : String) (args : List Arg)
      (h : ∀ x, Arg.expr x ∈ args → Expr.Obtained x) : Expr.Obtained (e.method name args)
  | unary {f : Arg → Expr} (hf : f ∈ Intrinsic.unaries) (a : Arg)
      (h : ∀ x, Arg.expr x ∈ [a] → Expr.Obtained x) : Expr.Obtained (f a)
  | binary {f : Arg → Arg → Expr} (hf : f ∈ Intrinsic.binaries) (a b : Arg)
      (h : ∀ x, Arg.expr x ∈ [a, b] → Expr.Obtained x) : Expr.Obtained (f a b)
  | variadic {f : List Arg → Expr} (hf : f ∈ Intrinsic.variadics) (args : List Arg)
      (h : ∀ x, Arg.expr x ∈ args → Expr.Obtained x) : Expr.Obtained (f args)
  | constant {e : Expr} (he : e ∈ Intrinsic.constants) : Expr.Obtained e
  | keyed {f : Key → Expr} (hf : f ∈ Intrinsic.keyed) (key : Key) : Expr.Obtained (f key)
  | directResourceId (providerType name : String) : Expr.Obtained (Intrinsic.directResourceId providerType name)
  | stackOutput (stack output : Key) : Expr.Obtained (Intrinsic.stackOutput stack output)

/-- Only an expression becomes an expression as an argument. -/
theorem Arg.eq_of_ofValue {function : String} {x : Expr} : ∀ {v : Value},
    Arg.ofValue function v = .ok (.expr x) → v = .expr x
  | .expr e, h => by
    obtain rfl : e = x := by simpa [Arg.ofValue] using h
    rfl
  | .ref (.literal text), h => absurd h (by simp [Arg.ofValue])
  | .ref (.declared target requester), h => absurd h (by simp [Arg.ofValue])
  | .bool _, h | .int _, h | .float _, h | .str _, h | .null, h | .list _, h | .map _, h =>
    absurd h (by simp [Arg.ofValue])

namespace Expr

theorem exists_call_of_callOn {function : String} {values : List Value} {e : Expr}
    (he : callOn function values = .ok e) :
    ∃ args, e = .call function args ∧ ∀ x, Arg.expr x ∈ args → Value.expr x ∈ values := by
  obtain ⟨args, hargs, hcall⟩ := bind_eq_ok.1 he
  obtain rfl := return_eq_ok.1 hcall
  refine ⟨args, rfl, fun x hx => ?_⟩
  obtain ⟨v, hv, hvalue⟩ := exists_of_mem_mapM hargs hx
  obtain rfl := Arg.eq_of_ofValue hvalue
  exact hv

/-- **All expressions come from calls and chaining.** -/
theorem obtained_iff_built {e : Expr} : e.Obtained ↔ e.Built := by
  obtain ⟨hunary, hbinary, hvariadic, hconstant, hkeyed⟩ := Intrinsic.functions_are_calls
  constructor
  · intro h
    induction h with
    | call function args _ ih => exact .call function args ih
    | callOn he _ ih =>
      obtain ⟨args, rfl, hargs⟩ := exists_call_of_callOn he
      exact .call _ args fun x hx => ih x (hargs x hx)
    | chain _ link _ he ih => exact .chain _ link he ih
    | property _ name he => exact he.chain_of_args_nil rfl
    | propertyKey _ key he => exact he.chain_of_args_nil rfl
    | atPosition _ index he => exact he.chain_of_args_nil rfl
    | atName _ name he => exact he.chain_of_args_nil rfl
    | method _ name args _ he ih => exact .chain _ (.method name args) he ih
    | unary hf a _ ih =>
      obtain ⟨function, hcall⟩ := hunary _ hf
      rw [hcall]
      exact .call function [a] ih
    | binary hf a b _ ih =>
      obtain ⟨function, hcall⟩ := hbinary _ hf
      rw [hcall]
      exact .call function [a, b] ih
    | variadic hf args _ ih =>
      obtain ⟨function, hcall⟩ := hvariadic _ hf
      rw [hcall]
      exact .call function args ih
    | constant he =>
      obtain ⟨function, rfl⟩ := hconstant _ he
      exact .call function [] (by simp)
    | keyed hf key =>
      obtain ⟨function, hcall⟩ := hkeyed _ hf
      rw [hcall]
      exact .call function [.name key] (by simp)
    | directResourceId providerType name => exact .call _ _ (by simp)
    | stackOutput stack output =>
      have hreference : (Intrinsic.reference [.name stack]).Built := .call _ _ (by simp)
      have houtputs : ((Intrinsic.reference [.name stack]).property "outputs").Built :=
        hreference.chain_of_args_nil rfl
      exact (houtputs.chain_of_args_nil rfl).chain_of_args_nil rfl
  · intro h
    induction h with
    | call function args _ ih => exact .call function args ih
    | chain base link _ _ he ih => exact .chain he link ih

/-! ### Appending links -/

/-- What the links of an expression hang off. -/
def head : Expr → Expr
  | call function args => call function args
  | linked base _ => base

/-- The links of an expression; a call has none. -/
def links : Expr → List Link
  | call _ _ => []
  | linked _ links => links

theorem chain_eq_linked (e : Expr) (link : Link) : e.chain link = linked e.head (e.links ++ [link]) := by
  cases e with
  | call function args => rfl
  | linked base links => rfl

/-- **Links are appended to one list.** -/
theorem chainAll_eq_linked (e : Expr) {ls : List Link} (h : ls ≠ []) :
    e.chainAll ls = linked e.head (e.links ++ ls) := by
  induction ls generalizing e with
  | nil => exact absurd rfl h
  | cons l ls ih =>
    have hstep : e.chainAll (l :: ls) = (linked e.head (e.links ++ [l])).chainAll ls :=
      congrArg (chainAll · ls) (chain_eq_linked e l)
    cases ls with
    | nil => exact hstep
    | cons m ls =>
      rw [hstep, ih _ (List.cons_ne_nil m ls), head, links, List.append_assoc]
      rfl

/-- What all parts of an expression pass the expression passes. -/
theorem expr_of_passes {k : Check} {e : Expr} (h : e.passes k) : k.expr e := by
  cases e with
  | call function args =>
    rw [passes, Bool.and_eq_true] at h
    exact h.1
  | linked base links =>
    rw [passes, Bool.and_eq_true, Bool.and_eq_true] at h
    exact h.1.1

/-- A flat expression is a call and the links behind it. -/
theorem exists_call_of_isFlat {e : Expr} (h : e.isFlat) :
    ∃ function args, e.head = call function args ∧ e.head.chainAll e.links = e := by
  cases e with
  | call function args => exact ⟨function, args, rfl, rfl⟩
  | linked base links =>
    cases base with
    | linked base more => exact absurd h Bool.false_ne_true
    | call function args =>
      have hlinks : links ≠ [] := by
        rintro rfl
        exact absurd h Bool.false_ne_true
      exact ⟨function, args, rfl, chainAll_eq_linked _ hlinks⟩

end Expr

/-! ### Texts -/

/-- The texts of links are joined, and the first link that fails decides. -/
theorem Link.texts_eq_mapM (s : Scope) (ls : List Link) :
    Link.texts s ls = do
      let us ← ls.mapM (Link.text s)
      return String.join us := by
  induction ls with
  | nil => rfl
  | cons l ls ih =>
    rw [Link.texts, ih, List.mapM_cons]
    cases l.text s with
    | error err => rfl
    | ok u =>
      cases ls.mapM (Link.text s) with
      | error err => rfl
      | ok us => simp [bind, Except.bind, pure, Except.pure, String.join_cons]

/-- An expression among arguments is one literal. -/
theorem Arg.texts_append_expr (s : Scope) (function : String) (before : List Arg) (e : Expr) (after : List Arg) :
    Arg.texts s function (before ++ .expr e :: after) = do
      let ts ← Arg.texts s function before
      let t ← e.text s
      let us ← Arg.texts s function after
      return ts ++ t :: us := by
  rw [Arg.texts_append, Arg.texts, Arg.text]
  cases Arg.texts s function before with
  | error err => rfl
  | ok ts =>
    cases e.text s with
    | error err => rfl
    | ok t =>
      cases Arg.texts s function after with
      | error err => rfl
      | ok us => rfl

namespace Expr

/-- **The text of appended links stands behind the text of the expression.** -/
theorem text_chainAll (s : Scope) (e : Expr) (ls : List Link) :
    (e.chainAll ls).text s = do
      let t ← e.text s
      let rest ← Link.texts s ls
      return t ++ rest := by
  cases ls with
  | nil =>
    cases he : e.text s with
    | error err => simp [chainAll, he, bind, Except.bind]
    | ok t => simp [chainAll, he, Link.texts, bind, Except.bind, pure, Except.pure]
  | cons l ls =>
    rw [chainAll_eq_linked e (List.cons_ne_nil l ls)]
    cases e with
    | call function args => rfl
    | linked base more =>
      rw [head, links, text, text, Link.texts_append]
      cases base.text s with
      | error err => rfl
      | ok t =>
        cases Link.texts s more with
        | error err => rfl
        | ok u =>
          cases Link.texts s (l :: ls) with
          | error err => rfl
          | ok v => simp [bind, Except.bind, pure, Except.pure, String.append_assoc]

theorem bracketed_chainAll (s : Scope) (e : Expr) (ls : List Link) :
    (e.chainAll ls).bracketed s = do
      let t ← e.text s
      let us ← ls.mapM (Link.text s)
      return "[" ++ (t ++ String.join us) ++ "]" := by
  rw [bracketed, text_chainAll, Link.texts_eq_mapM]
  cases e.text s with
  | error err => rfl
  | ok t =>
    cases ls.mapM (Link.text s) with
    | error err => rfl
    | ok us => rfl

/-- The expression fails before its links, and a link before the next. -/
theorem failure?_bracketed_chainAll (s : Scope) (e : Expr) (ls : List Link) :
    failure? ((e.chainAll ls).bracketed s) =
      (failure? (e.text s)).or (ls.findSome? fun l => failure? (l.text s)) := by
  have hlinks : ∀ t, failure? (do
      let us ← ls.mapM (Link.text s)
      return "[" ++ (t ++ String.join us) ++ "]") = ls.findSome? fun l => failure? (l.text s) := by
    intro t
    rw [failure?_bind_return, failure?_mapM]
  rw [bracketed_chainAll, failure?_bind hlinks]

theorem bracketed_eq_ok_iff {s : Scope} {e : Expr} {t : String} :
    e.bracketed s = .ok ("[" ++ t ++ "]") ↔ e.text s = .ok t := by
  have hbrackets : ∀ u : String, "[" ++ u ++ "]" = "[" ++ t ++ "]" ↔ u = t := by
    intro u
    rw [← String.toList_inj, ← String.toList_inj]
    simp
  rw [bracketed, bind_eq_ok]
  constructor
  · rintro ⟨u, hu, h⟩
    rw [return_eq_ok, hbrackets] at h
    rw [hu, h]
  · intro h
    exact ⟨t, h, rfl⟩

/-- As an argument an expression is its text without brackets. -/
theorem argument_text_eq_ok_iff {s : Scope} {function t : String} {e : Expr} :
    (Arg.expr e).text s function = .ok [t] ↔ e.bracketed s = .ok ("[" ++ t ++ "]") := by
  rw [bracketed_eq_ok_iff, Arg.text, bind_eq_ok]
  constructor
  · rintro ⟨u, hu, h⟩
    rw [return_eq_ok, List.singleton_inj] at h
    rw [hu, h]
  · intro h
    exact ⟨t, h, rfl⟩

/-- **Chains are flat and written link by link.** At every depth of an
expression a chain hangs off a call and has a link; the expression is a call
and the links behind it. Links that are appended to it one after the other come
behind its own links, off the same call. They are written in brackets as the
text of the expression and then the texts of the links, and fail as the
expression does, else as the first link that fails. As an argument the
expression is the one literal that it is in brackets, without them, and fails
alike; it stands where it is among the arguments. -/
theorem Obtained.written_link_by_link {e : Expr} (h : e.Obtained) :
    e.passes .flat ∧
    (∃ function args, e.head = .call function args ∧ e.head.chainAll e.links = e ∧
      ∀ ls, ls ≠ [] → e.chainAll ls = .linked (.call function args) (e.links ++ ls)) ∧
    (∀ s ls,
      (e.chainAll ls).bracketed s = (do
        let t ← e.text s
        let us ← ls.mapM (Link.text s)
        return "[" ++ (t ++ String.join us) ++ "]") ∧
      failure? ((e.chainAll ls).bracketed s) =
        (failure? (e.text s)).or (ls.findSome? fun l => failure? (l.text s))) ∧
    ∀ s function,
      (∀ t, (Arg.expr e).text s function = .ok [t] ↔ e.bracketed s = .ok ("[" ++ t ++ "]")) ∧
      failure? ((Arg.expr e).text s function) = failure? (e.bracketed s) ∧
      ∀ before after, Arg.texts s function (before ++ .expr e :: after) = do
        let ts ← Arg.texts s function before
        let t ← e.text s
        let us ← Arg.texts s function after
        return ts ++ t :: us := by
  have hflat : e.passes .flat := (obtained_iff_built.1 h).flat
  obtain ⟨function, args, hhead, hlinks⟩ := exists_call_of_isFlat (expr_of_passes hflat)
  refine ⟨hflat, ⟨function, args, hhead, hlinks, fun ls hls => ?_⟩, fun s ls => ?_, fun s function => ?_⟩
  · rw [chainAll_eq_linked e hls, hhead]
  · exact ⟨bracketed_chainAll s e ls, failure?_bracketed_chainAll s e ls⟩
  · refine ⟨fun t => argument_text_eq_ok_iff, ?_, fun before after => ?_⟩
    · rw [Arg.text, bracketed, failure?_bind_return, failure?_bind_return]
    · exact Arg.texts_append_expr s function before e after

/-- Links behind a chain, with an apostrophe and a nested call; in the other
scope nothing is declared, and the expression fails before its links do. -/
theorem Obtained.written_link_by_link_webApp :
    let s : Scope :=
      { style := .standard, registry := { resources := [{ name := "web_app", providerType := "Web/sites" }] } }
    let e := (Intrinsic.reference [.resource "web_app"]).property "outputs"
    let ls : List Link := [.member "it's", .method "item" [.expr (Intrinsic.parameters (.styled "sku_name"))]]
    let failing : List Link := [.position 0, .method "item" [.resource "db"], .method "last" [.resource "log"]]
    e.Obtained ∧ ls ≠ [] ∧
    e.chainAll ls = .linked (.call "reference" [.resource "web_app"]) (.property (.verbatim "outputs") :: ls) ∧
    (e.chainAll ls).bracketed s =
      .ok "[reference('Web/sites', 'webApp').outputs['it''s'].item(parameters('skuName'))]" ∧
    failure? ((e.chainAll failing).bracketed s) = some (.notFound "db" (.argument "item")) ∧
    failure? ((e.chainAll failing).bracketed { style := .standard }) =
      some (.notFound "web_app" (.argument "reference")) ∧
    (Arg.expr e).text s "string" = .ok ["reference('Web/sites', 'webApp').outputs"] := by
  intro s e ls failing
  have he : e.Obtained := .property (.variadic (by simp [Intrinsic.variadics]) [.resource "web_app"] (by simp)) _
  obtain ⟨-, ⟨function, args, hhead, -, hchain⟩, htext, hargument⟩ := written_link_by_link he
  obtain ⟨rfl, rfl⟩ : "reference" = function ∧ [Arg.resource "web_app"] = args := Expr.call.inj hhead
  have hls : ls ≠ [] := List.cons_ne_nil _ _
  obtain ⟨hbracketed, -⟩ := htext s ls
  obtain ⟨-, hfails⟩ := htext s failing
  obtain ⟨-, hfailsFirst⟩ := htext { style := .standard } failing
  obtain ⟨hliteral, -⟩ := hargument s "string"
  refine ⟨he, hls, hchain ls hls, hbracketed.trans ?_, hfails.trans ?_, hfailsFirst.trans ?_, (hliteral _).2 ?_⟩
  · exact eq_ok_of_toOption (by decide)
  · decide
  · decide
  · exact eq_ok_of_toOption (by decide)

end Expr
end ResourceTemplate
