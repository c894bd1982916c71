/-
# The text of an expression

An expression is written under a key style and against the declared
resources. Only the outermost expression stands in brackets. A declared
resource among the arguments becomes two literals, its provider type and its
name; if it is not declared, the failure names the innermost function or
method that receives it. Arguments are written from left to right and the
base of a chain before its links, and the first failure is the answer.

Key definitions: `Scope`, `Expr.text`, `Expr.bracketed`, `Link.text`.
Key theorems: `Link.texts_append`.
-/
import ResourceTemplate.Expr.Basic
import ResourceTemplate.Numeric.Layout
import ResourceTemplate.Registry
import ResourceTemplate.Text.Quoted
import ResourceTemplate.Text.Scalar

namespace ResourceTemplate

/-- What the text of an expression depends on. -/
structure Scope where
  style : KeyStyle
  registry : Registry := .empty

/-- Numbers in expressions never have an exponent, and a whole number shows
no fraction; of two nearest decimals the larger is taken. -/
def argumentLayout : Layout where
  tie := .up
  plain := none
  pointed := false

/-- A floating-point number in an expression. -/
def Binary64.argumentText (x : Binary64) : String :=
  if x.isFinite then x.finiteText argumentLayout
  else if x.isNaN then "NaN"
  else if x.isNegative then "-inf"
  else "inf"

mutual
/-- The text of an expression, without brackets. -/
def Expr.text (s : Scope) : Expr → Except Error String
  | .call function args => do
    let ts ← Arg.texts s function args
    return function ++ "(" ++ ", ".intercalate ts ++ ")"
  | .linked base links => do
    let t ← base.text s
    let rest ← Link.texts s links
    return t ++ rest
termination_by structural e => e

/-- The literals that an argument of a function stands for. -/
def Arg.text (s : Scope) (function : String) : Arg → Except Error (List String)
  | .str text => return [Text.quote text]
  | .int number => return [Text.ofInt number]
  | .float number => return [number.argumentText]
  | .bool flag => return [Text.ofFlag flag]
  | .name key => return [Text.quote (s.style.spellKey key)]
  | .resource name => do
    let r ← s.registry.resolve name (.ofFunction function)
    return [Text.quote r.providerType, Text.quote (r.rendered s.style)]
  | .expr e => do
    let t ← e.text s
    return [t]
termination_by structural a => a

/-- The text of a link. -/
def Link.text (s : Scope) : Link → Except Error String
  | .property key => return "." ++ s.style.spellKey key
  | .position index => return "[" ++ Text.ofInt index ++ "]"
  | .member name => return "[" ++ Text.quote name ++ "]"
  | .method name args => do
    let ts ← Arg.texts s name args
    return "." ++ name ++ "(" ++ ", ".intercalate ts ++ ")"
termination_by structural l => l

/-- The literals of the arguments of a function, in order. -/
def Arg.texts (s : Scope) (function : String) : List Arg → Except Error (List String)
  | [] => return []
  | a :: as => do
    let t ← a.text s function
    let ts ← Arg.texts s function as
    return t ++ ts
termination_by structural as => as

/-- The texts of links, one after the other. -/
def Link.texts (s : Scope) : List Link → Except Error String
  | [] => return ""
  | l :: ls => do
    let t ← l.text s
    let rest ← Link.texts s ls
    return t ++ rest
termination_by structural ls => ls
end

/-- Links are written one after the other, and the first that fails decides. -/
theorem Link.texts_append (s : Scope) (ms : List Link) : ∀ ls : List Link,
    Link.texts s (ls ++ ms) = (do
      let t ← Link.texts s ls
      let rest ← Link.texts s ms
      return t ++ rest)
  | [] => by
    cases h : Link.texts s ms <;> simp [Link.texts, h, bind, Except.bind, pure, Except.pure]
  | l :: ls => by
    rw [List.cons_append, Link.texts, Link.texts, Link.texts_append s ms ls]
    cases Link.text s l with
    | error e => rfl
    | ok t =>
      cases Link.texts s ls with
      | error e => rfl
      | ok t' =>
        cases Link.texts s ms with
        | error e => rfl
        | ok t'' => simp [bind, Except.bind, pure, Except.pure, String.append_assoc]

/-- An expression as a value of a document: in one pair of brackets. -/
def Expr.bracketed (s : Scope) (e : Expr) : Except Error String := do
  let t ← e.text s
  return "[" ++ t ++ "]"

end ResourceTemplate
