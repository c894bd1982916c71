/-
# Who receives a resource

A resource among arguments is received by the function or the method that has
these arguments. The functions and methods of an expression are the function
that is called, the methods behind a call, and those of the expressions among
their arguments, at any depth (`Expr.Receives`). So a resource in an argument
that is an expression is received further in, and a method behind a chain
receives for itself and not for the function at the head of the chain.

What an expression demands is that the resources are declared that its
functions and methods receive (`Expr.mem_obligations_iff`). If one is not, the
failure names the receiver: the operation `resource_id` if it is called
`resourceId`, an argument of it under any other name
(`Expr.failure_names_receiver`).

Key definitions: `Expr.Receives`, `Obligation.ReceivedIn`.
Key theorems: `Expr.mem_obligations_iff`, `Expr.failure_names_receiver`.
-/
import ResourceTemplate.Expr.Intrinsic
import ResourceTemplate.Proofs.Obligation

namespace ResourceTemplate

open Obligation Outcome

/-- Whether a function or a method receives arguments at some depth of an
expression. -/
inductive Expr.Receives (function : String) (args : List Arg) : Expr → Prop
  | call : Expr.Receives function args (.call function args)
  | nested {outer : String} {outerArgs : List Arg} {x : Expr} (hx : Arg.expr x ∈ outerArgs)
      (h : Expr.Receives function args x) : Expr.Receives function args (.call outer outerArgs)
  | base {base : Expr} {links : List Link} (h : Expr.Receives function args base) :
      Expr.Receives function args (.linked base links)
  | method {base : Expr} {links : List Link} (h : Link.method function args ∈ links) :
      Expr.Receives function args (.linked base links)
  | nestedInMethod {base : Expr} {links : List Link} {outer : String} {outerArgs : List Arg} {x : Expr}
      (hl : Link.method outer outerArgs ∈ links) (hx : Arg.expr x ∈ outerArgs)
      (h : Expr.Receives function args x) : Expr.Receives function args (.linked base links)

/-- Whether a demand is that a resource be declared that a function or a
method of an expression receives, on behalf of this function. -/
def Obligation.ReceivedIn (o : Obligation) (e : Expr) : Prop :=
  ∃ function args name, e.Receives function args ∧ Arg.resource name ∈ args ∧
    o = .declared name (.ofFunction function)

/-! ### Demands and their receivers -/

theorem Arg.mem_allObligations {o : Obligation} {function : String} {as : List Arg} :
    o ∈ Arg.allObligations function as ↔ ∃ a ∈ as, o ∈ a.obligations function := by
  induction as with
  | nil => simp [Arg.allObligations]
  | cons a as ih => simp [Arg.allObligations, ih]

theorem Link.mem_allObligations {o : Obligation} {ls : List Link} :
    o ∈ Link.allObligations ls ↔ ∃ l ∈ ls, o ∈ l.obligations := by
  induction ls with
  | nil => simp [Link.allObligations]
  | cons l ls ih => simp [Link.allObligations, ih]

/-- What a function receives, it demands. -/
theorem Expr.mem_obligations_of_receives {function : String} {args : List Arg} {name : String} {e : Expr}
    (hname : Arg.resource name ∈ args) (h : e.Receives function args) :
    .declared name (.ofFunction function) ∈ e.obligations := by
  have hargs : .declared name (.ofFunction function) ∈ Arg.allObligations function args :=
    Arg.mem_allObligations.2 ⟨_, hname, List.mem_cons_self⟩
  induction h with
  | call => exact hargs
  | nested hx _ ih => exact Arg.mem_allObligations.2 ⟨_, hx, ih⟩
  | base _ ih => exact List.mem_append_left _ ih
  | method hl => exact List.mem_append_right _ (Link.mem_allObligations.2 ⟨_, hl, hargs⟩)
  | nestedInMethod hl hx _ ih =>
    refine List.mem_append_right _ (Link.mem_allObligations.2 ⟨_, hl, ?_⟩)
    exact Arg.mem_allObligations.2 ⟨_, hx, ih⟩

mutual
/-- What an expression demands, one of its functions or methods receives. -/
theorem Expr.receivedIn_of_mem {o : Obligation} : ∀ e : Expr, o ∈ e.obligations → o.ReceivedIn e
  | .call function args, h => by
    rcases Arg.received_of_mem args h with ⟨name, hname, rfl⟩ | ⟨x, hx, f, as, name, hr, hname, rfl⟩
    · exact ⟨function, args, name, .call, hname, rfl⟩
    · exact ⟨f, as, name, .nested hx hr, hname, rfl⟩
  | .linked base links, h => by
    rcases List.mem_append.1 h with h | h
    · obtain ⟨f, as, name, hr, hname, rfl⟩ := Expr.receivedIn_of_mem base h
      exact ⟨f, as, name, .base hr, hname, rfl⟩
    · obtain ⟨method, args, hl, h⟩ := Link.received_of_mem links h
      rcases h with ⟨name, hname, rfl⟩ | ⟨x, hx, f, as, name, hr, hname, rfl⟩
      · exact ⟨method, args, name, .method hl, hname, rfl⟩
      · exact ⟨f, as, name, .nestedInMethod hl hx hr, hname, rfl⟩
termination_by structural e => e

/-- The function itself receives it, or the functions and methods of an
argument do. -/
theorem Arg.received_of_mem {o : Obligation} {function : String} : ∀ as : List Arg,
    o ∈ Arg.allObligations function as →
    (∃ name, Arg.resource name ∈ as ∧ o = .declared name (.ofFunction function)) ∨
      ∃ x, Arg.expr x ∈ as ∧ o.ReceivedIn x
  | [], h => absurd h List.not_mem_nil
  | a :: as, h => by
    rcases List.mem_append.1 h with h | h
    · rcases Arg.received_of_mem_obligations a h with ⟨name, rfl, ho⟩ | ⟨x, rfl, ho⟩
      · exact .inl ⟨name, List.mem_cons_self, ho⟩
      · exact .inr ⟨x, List.mem_cons_self, ho⟩
    · rcases Arg.received_of_mem as h with ⟨name, hname, ho⟩ | ⟨x, hx, ho⟩
      · exact .inl ⟨name, List.mem_cons_of_mem a hname, ho⟩
      · exact .inr ⟨x, List.mem_cons_of_mem a hx, ho⟩
termination_by structural as => as

theorem Arg.received_of_mem_obligations {o : Obligation} {function : String} : ∀ a : Arg,
    o ∈ a.obligations function →
    (∃ name, a = .resource name ∧ o = .declared name (.ofFunction function)) ∨
      ∃ x, a = .expr x ∧ o.ReceivedIn x
  | .resource name, h => .inl ⟨name, rfl, List.mem_singleton.1 h⟩
  | .expr x, h => .inr ⟨x, rfl, Expr.receivedIn_of_mem x h⟩
  | .str _, h | .int _, h | .float _, h | .bool _, h | .name _, h => absurd h List.not_mem_nil
termination_by structural a => a

theorem Link.received_of_mem {o : Obligation} : ∀ ls : List Link, o ∈ Link.allObligations ls →
    ∃ method args, Link.method method args ∈ ls ∧
      ((∃ name, Arg.resource name ∈ args ∧ o = .declared name (.ofFunction method)) ∨
        ∃ x, Arg.expr x ∈ args ∧ o.ReceivedIn x)
  | [], h => absurd h List.not_mem_nil
  | l :: ls, h => by
    rcases List.mem_append.1 h with h | h
    · obtain ⟨method, args, rfl, ho⟩ := Link.received_of_mem_obligations l h
      exact ⟨method, args, List.mem_cons_self, ho⟩
    · obtain ⟨method, args, hl, ho⟩ := Link.received_of_mem ls h
      exact ⟨method, args, List.mem_cons_of_mem l hl, ho⟩
termination_by structural ls => ls

theorem Link.received_of_mem_obligations {o : Obligation} : ∀ l : Link, o ∈ l.obligations →
    ∃ method args, l = .method method args ∧
      ((∃ name, Arg.resource name ∈ args ∧ o = .declared name (.ofFunction method)) ∨
        ∃ x, Arg.expr x ∈ args ∧ o.ReceivedIn x)
  | .method method args, h => ⟨method, args, rfl, Arg.received_of_mem args h⟩
  | .property _, h | .position _, h | .member _, h => absurd h List.not_mem_nil
termination_by structural l => l
end

theorem Expr.mem_obligations_iff {o : Obligation} {e : Expr} : o ∈ e.obligations ↔ o.ReceivedIn e := by
  constructor
  · exact Expr.receivedIn_of_mem e
  · rintro ⟨function, args, name, h, hname, rfl⟩
    exact Expr.mem_obligations_of_receives hname h

/-! ### Failures and the operations that they name -/

theorem Obligation.not_isMet_declared {g : Registry} {name : String} {requester : Requester} :
    ¬ (Obligation.declared name requester).isMet g ↔ g.find? name = none := by
  simp [isMet]

/-- **A failure names the receiver.** An expression has a text unless one of
its functions or methods receives a resource that is not declared. The failure
then names such a resource and who receives it: the operation `resource_id` if
that is called `resourceId`, else an argument of it. -/
theorem Expr.failure_names_receiver (s : Scope) (e : Expr) :
    ((∃ err, e.text s = .error err) ↔ ∃ function args name, e.Receives function args ∧
      Arg.resource name ∈ args ∧ s.registry.find? name = none) ∧
    ∀ err, e.text s = .error err → ∃ function args name, e.Receives function args ∧
      Arg.resource name ∈ args ∧ s.registry.find? name = none ∧
      err = .notFound name (if function = "resourceId" then .resourceId else .argument function) := by
  have hfails : ∀ err, e.text s = .error err ↔ firstError s.registry e.obligations = some err := by
    intro err
    rw [← failure?_eq_some_iff, Expr.failure?_text]
  have hnames : ∀ err, e.text s = .error err → ∃ function args name, e.Receives function args ∧
      Arg.resource name ∈ args ∧ s.registry.find? name = none ∧
      err = .notFound name (if function = "resourceId" then .resourceId else .argument function) := by
    intro err herr
    obtain ⟨before, o, after, hos, -, hmet, rfl⟩ := firstError_eq_some_iff.1 ((hfails err).1 herr)
    have ho : o ∈ e.obligations := hos ▸ List.mem_append_right before List.mem_cons_self
    obtain ⟨function, args, name, hreceives, hname, rfl⟩ := Expr.mem_obligations_iff.1 ho
    exact ⟨function, args, name, hreceives, hname, not_isMet_declared.1 hmet, rfl⟩
  refine ⟨⟨?_, ?_⟩, hnames⟩
  · rintro ⟨err, herr⟩
    obtain ⟨function, args, name, hreceives, hname, hnone, -⟩ := hnames err herr
    exact ⟨function, args, name, hreceives, hname, hnone⟩
  · rintro ⟨function, args, name, hreceives, hname, hnone⟩
    have ho := Expr.mem_obligations_of_receives hname hreceives
    obtain ⟨err, herr⟩ := exists_firstError_iff.2 ⟨_, ho, not_isMet_declared.2 hnone⟩
    exact ⟨err, (hfails err).2 herr⟩

/-- Behind a chain and in a nested call the innermost receiver is named. -/
example :
    ((Intrinsic.reference [.expr (Intrinsic.concat [.resource "db"])]).method "resourceId" [.resource "web"]).text
      { style := .standard } = .error (.notFound "db" (.argument "concat")) ∧
    ((Intrinsic.reference []).method "resourceId" [.resource "web"]).text
      { style := .standard } = .error (.notFound "web" .resourceId) := ⟨rfl, rfl⟩

end ResourceTemplate
