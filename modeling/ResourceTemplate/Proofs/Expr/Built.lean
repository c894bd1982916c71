/-
# How expressions are built

Expressions come from calls and from chaining links to expressions that are
built already; the arguments of both may hold built expressions in turn. So
chains are flat: at every depth the base of a chain is a call, and a chain
has at least one link.

A check asks something of every expression, argument and link that an
expression holds, at whatever depth.

Key definitions: `Expr.Built`, `Check`, `Expr.passes`, `Check.flat`.
Key theorems: `Expr.Built.flat`.
-/
import ResourceTemplate.Expr.Basic

namespace ResourceTemplate

/-- The arguments of a link; only a method has some. -/
def Link.args : Link → List Arg
  | .method _ args => args
  | .property _ | .position _ | .member _ => []

/-- The expressions that calls and chaining make. -/
inductive Expr.Built : Expr → Prop
  | call (function : String) (args : List Arg) (h : ∀ e, Arg.expr e ∈ args → Expr.Built e) :
      Expr.Built (.call function args)
  | chain (base : Expr) (link : Link) (hbase : Expr.Built base)
      (h : ∀ e, Arg.expr e ∈ link.args → Expr.Built e) : Expr.Built (base.chain link)

/-- Properties and indices hold no expressions, so chaining them asks for
nothing. -/
theorem Expr.Built.chain_of_args_nil {e : Expr} (h : e.Built) {link : Link} (hl : link.args = []) :
    (e.chain link).Built := by
  refine .chain e link h fun x hx => ?_
  rw [hl] at hx
  exact absurd hx List.not_mem_nil

/-! ### Checks at every depth -/

/-- What is asked of each expression, argument and link. -/
structure Check where
  expr : Expr → Bool := fun _ => true
  arg : Arg → Bool := fun _ => true
  link : Link → Bool := fun _ => true

mutual
/-- Whether an expression and all that it holds pass a check. -/
def Expr.passes (k : Check) : Expr → Bool
  | .call function args => k.expr (.call function args) && Arg.allPass k args
  | .linked base links => k.expr (.linked base links) && base.passes k && Link.allPass k links
termination_by structural e => e

/-- Whether an argument and all that it holds pass a check. -/
def Arg.passes (k : Check) : Arg → Bool
  | .str text => k.arg (.str text)
  | .int number => k.arg (.int number)
  | .float number => k.arg (.float number)
  | .bool flag => k.arg (.bool flag)
  | .name key => k.arg (.name key)
  | .resource name => k.arg (.resource name)
  | .expr e => k.arg (.expr e) && e.passes k
termination_by structural a => a

/-- Whether a link and all that it holds pass a check. -/
def Link.passes (k : Check) : Link → Bool
  | .property key => k.link (.property key)
  | .position index => k.link (.position index)
  | .member name => k.link (.member name)
  | .method name args => k.link (.method name args) && Arg.allPass k args
termination_by structural l => l

/-- Whether all arguments pass a check. -/
def Arg.allPass (k : Check) : List Arg → Bool
  | [] => true
  | a :: as => a.passes k && Arg.allPass k as
termination_by structural as => as

/-- Whether all links pass a check. -/
def Link.allPass (k : Check) : List Link → Bool
  | [] => true
  | l :: ls => l.passes k && Link.allPass k ls
termination_by structural ls => ls
end

theorem Link.allPass_append (k : Check) (ms : List Link) : ∀ ls : List Link,
    Link.allPass k (ls ++ ms) = (Link.allPass k ls && Link.allPass k ms)
  | [] => by rw [List.nil_append, Link.allPass, Bool.true_and]
  | l :: ls => by
    rw [List.cons_append, Link.allPass, Link.allPass, Link.allPass_append k ms ls, Bool.and_assoc]

/-! ### Flat chains -/

/-- Whether an expression, if it is a chain, hangs off a call and has a link. -/
def Expr.isFlat : Expr → Bool
  | .call _ _ => true
  | .linked (.call _ _) links => !links.isEmpty
  | .linked (.linked _ _) _ => false

/-- Every chain hangs off a call and has a link. -/
def Check.flat : Check where
  expr := Expr.isFlat

theorem Check.flat_expr (e : Expr) : Check.flat.expr e = e.isFlat := rfl

/-- Arguments are flat if the expressions among them are. -/
theorem Arg.allPass_flat : ∀ {args : List Arg}, (∀ e, Arg.expr e ∈ args → e.passes .flat) →
    Arg.allPass .flat args
  | [], _ => rfl
  | a :: as, h => by
    have hrest : Arg.allPass .flat as := Arg.allPass_flat fun e he => h e (List.mem_cons_of_mem _ he)
    have hfirst : a.passes .flat := by
      cases a with
      | expr e => exact h e List.mem_cons_self
      | _ => rfl
    rw [Arg.allPass, hfirst, hrest]
    rfl

theorem Link.passes_flat {link : Link} (h : ∀ e, Arg.expr e ∈ link.args → e.passes .flat) :
    link.passes .flat := by
  cases link with
  | method name args => exact Arg.allPass_flat h
  | _ => rfl

/-- Chaining keeps an expression flat: it lengthens a chain and starts one on
a call. -/
theorem Expr.passes_flat_chain {link : Link} (hl : link.passes .flat) : ∀ {e : Expr},
    e.passes .flat → (e.chain link).passes .flat
  | .call function args, he => by
    rw [Expr.passes, Bool.and_eq_true] at he
    simp [Expr.chain, Expr.passes, Link.allPass, Check.flat_expr, Expr.isFlat, he.2, hl]
  | .linked (.call function args) links, he => by
    rw [Expr.passes, Expr.passes, Bool.and_eq_true, Bool.and_eq_true, Bool.and_eq_true] at he
    simp [Expr.chain, Expr.passes, Link.allPass_append, Link.allPass, Check.flat_expr, Expr.isFlat,
      he.1.2.2, he.2, hl]
  | .linked (.linked base links) more, he => by
    simp [Expr.passes, Check.flat_expr, Expr.isFlat] at he

/-- **Every chain is flat, at every depth.** -/
theorem Expr.Built.flat {e : Expr} (h : e.Built) : e.passes .flat := by
  induction h with
  | call function args _ ih =>
    rw [Expr.passes, Arg.allPass_flat ih]
    rfl
  | chain base link _ _ hbase ih => exact Expr.passes_flat_chain (Link.passes_flat ih) hbase

end ResourceTemplate
