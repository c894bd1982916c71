/-
# Equal expressions

Numbers are the one place where equal expressions need not be the same: the
two zeros agree and are written differently. An expression that holds no
floating-point number is equal to itself only.

Key definitions: `Check.floatFree`.
Key theorems: `Expr.eq_of_same`.
-/
import ResourceTemplate.Proofs.Expr.Built

namespace ResourceTemplate

def Arg.isFloat : Arg → Bool
  | .float _ => true
  | _ => false

/-- No argument is a floating-point number, at whatever depth. -/
def Check.floatFree : Check where
  arg a := !a.isFloat

mutual
/-- **Without floating-point numbers equal expressions are the same.** -/
theorem Expr.eq_of_same : ∀ {e f : Expr}, e.passes .floatFree → e.same f → e = f
  | .call function args, f, hfree, h => by
    cases f with
    | call function' args' =>
      obtain ⟨hfunction, hargs⟩ := (Bool.and_eq_true _ _).mp h
      rw [Expr.passes, Bool.and_eq_true] at hfree
      rw [beq_iff_eq.1 hfunction, Arg.eq_of_sameAll hfree.2 hargs]
    | linked base links => exact Bool.noConfusion h
  | .linked base links, f, hfree, h => by
    cases f with
    | call function args => exact Bool.noConfusion h
    | linked base' links' =>
      obtain ⟨hbase, hlinks⟩ := (Bool.and_eq_true _ _).mp h
      rw [Expr.passes, Bool.and_eq_true, Bool.and_eq_true] at hfree
      obtain ⟨⟨-, hbaseFree⟩, hlinksFree⟩ := hfree
      rw [Expr.eq_of_same hbaseFree hbase, Link.eq_of_sameAll hlinksFree hlinks]
termination_by structural e => e

theorem Arg.eq_of_same : ∀ {a b : Arg}, a.passes .floatFree → a.same b → a = b
  | .str text, b, _, h => by
    cases b with
    | str text' => rw [beq_iff_eq.1 h]
    | _ => exact Bool.noConfusion h
  | .int number, b, _, h => by
    cases b with
    | int number' => rw [beq_iff_eq.1 h]
    | _ => exact Bool.noConfusion h
  | .float number, _, hfree, _ => Bool.noConfusion hfree
  | .bool flag, b, _, h => by
    cases b with
    | bool flag' => rw [beq_iff_eq.1 h]
    | _ => exact Bool.noConfusion h
  | .name key, b, _, h => by
    cases b with
    | name key' => rw [beq_iff_eq.1 h]
    | _ => exact Bool.noConfusion h
  | .resource name, b, _, h => by
    cases b with
    | resource name' => rw [beq_iff_eq.1 h]
    | _ => exact Bool.noConfusion h
  | .expr e, b, hfree, h => by
    cases b with
    | expr f =>
      rw [Arg.passes, Bool.and_eq_true] at hfree
      rw [Expr.eq_of_same hfree.2 h]
    | _ => exact Bool.noConfusion h
termination_by structural a => a

theorem Link.eq_of_same : ∀ {l m : Link}, l.passes .floatFree → l.same m → l = m
  | .property key, m, _, h => by
    cases m with
    | property key' => rw [beq_iff_eq.1 h]
    | _ => exact Bool.noConfusion h
  | .position index, m, _, h => by
    cases m with
    | position index' => rw [beq_iff_eq.1 h]
    | _ => exact Bool.noConfusion h
  | .member name, m, _, h => by
    cases m with
    | member name' => rw [beq_iff_eq.1 h]
    | _ => exact Bool.noConfusion h
  | .method name args, m, hfree, h => by
    cases m with
    | method name' args' =>
      obtain ⟨hname, hargs⟩ := (Bool.and_eq_true _ _).mp h
      rw [Link.passes, Bool.and_eq_true] at hfree
      rw [beq_iff_eq.1 hname, Arg.eq_of_sameAll hfree.2 hargs]
    | _ => exact Bool.noConfusion h
termination_by structural l => l

theorem Arg.eq_of_sameAll : ∀ {as bs : List Arg}, Arg.allPass .floatFree as → Arg.sameAll as bs → as = bs
  | [], bs, _, h => by
    cases bs with
    | nil => rfl
    | cons b bs => exact Bool.noConfusion h
  | a :: as, bs, hfree, h => by
    cases bs with
    | nil => exact Bool.noConfusion h
    | cons b bs =>
      obtain ⟨hfirst, hrest⟩ := (Bool.and_eq_true _ _).mp h
      rw [Arg.allPass, Bool.and_eq_true] at hfree
      rw [Arg.eq_of_same hfree.1 hfirst, Arg.eq_of_sameAll hfree.2 hrest]
termination_by structural as => as

theorem Link.eq_of_sameAll : ∀ {ls ms : List Link}, Link.allPass .floatFree ls → Link.sameAll ls ms → ls = ms
  | [], ms, _, h => by
    cases ms with
    | nil => rfl
    | cons m ms => exact Bool.noConfusion h
  | l :: ls, ms, hfree, h => by
    cases ms with
    | nil => exact Bool.noConfusion h
    | cons m ms =>
      obtain ⟨hfirst, hrest⟩ := (Bool.and_eq_true _ _).mp h
      rw [Link.allPass, Bool.and_eq_true] at hfree
      rw [Link.eq_of_same hfree.1 hfirst, Link.eq_of_sameAll hfree.2 hrest]
termination_by structural ls => ls
end

end ResourceTemplate
