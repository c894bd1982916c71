/-
# Expressions of the template language

An expression is a call of a function, or a chain of links (a property, an
index, a method call) that hangs off another expression. Chaining extends a
chain instead of nesting it, so the base of every chain built here is a call
and its links are in the order in which they were appended. Nothing is turned
into text before a document is made.

Key definitions: `Expr`, `Arg`, `Link`, `Expr.chain`, `Expr.chainAll`,
`Expr.same`.
-/
import ResourceTemplate.KeyStyle
import ResourceTemplate.Numeric.Binary64

namespace ResourceTemplate

mutual
/-- An expression. -/
inductive Expr
  /-- A call of a function. -/
  | call (function : String) (args : List Arg)
  /-- Links appended to an expression. -/
  | linked (base : Expr) (links : List Link)

/-- An argument of a function or a method. -/
inductive Arg
  | str (text : String)
  | int (number : Int)
  | float (number : Binary64)
  | bool (flag : Bool)
  /-- A name that the key style spells; it stands as a string. -/
  | name (key : Key)
  /-- A declared resource; its provider type and its name stand as two
  strings. -/
  | resource (name : String)
  /-- An expression, nested without brackets of its own. -/
  | expr (e : Expr)

/-- What can be appended to an expression. -/
inductive Link
  | property (key : Key)
  | position (index : Int)
  | member (name : String)
  | method (name : String) (args : List Arg)
end

namespace Expr

/-- The expression with a link appended: a chain grows, a call becomes a
chain. -/
def chain : Expr → Link → Expr
  | linked base links, link => linked base (links ++ [link])
  | call function args, link => linked (call function args) [link]

/-- The expression with links appended one after the other. -/
def chainAll (e : Expr) (links : List Link) : Expr :=
  links.foldl chain e

/-- The expression with a property that is written as it is given. -/
def property (e : Expr) (name : String) : Expr :=
  e.chain (.property (.verbatim name))

/-- The expression with a property under a key. -/
def propertyKey (e : Expr) (key : Key) : Expr :=
  e.chain (.property key)

/-- The expression with a numeric index. -/
def atPosition (e : Expr) (index : Int) : Expr :=
  e.chain (.position index)

/-- The expression with an index by name. -/
def atName (e : Expr) (name : String) : Expr :=
  e.chain (.member name)

/-- The expression with a method call. -/
def method (e : Expr) (name : String) (args : List Arg) : Expr :=
  e.chain (.method name args)

end Expr

/-! ### Equality

Floating-point arguments are compared as numbers, all else by structure. -/

mutual
/-- Whether two expressions are equal. -/
def Expr.same : Expr → Expr → Bool
  | .call f as, .call g bs => f == g && Arg.sameAll as bs
  | .linked a ls, .linked b ms => a.same b && Link.sameAll ls ms
  | _, _ => false
termination_by structural e => e

/-- Whether two arguments are equal. -/
def Arg.same : Arg → Arg → Bool
  | .str a, .str b => a == b
  | .int a, .int b => a == b
  | .float a, .float b => a.agrees b
  | .bool a, .bool b => a == b
  | .name a, .name b => a == b
  | .resource a, .resource b => a == b
  | .expr a, .expr b => a.same b
  | _, _ => false
termination_by structural a => a

/-- Whether two links are equal. -/
def Link.same : Link → Link → Bool
  | .property a, .property b => a == b
  | .position a, .position b => a == b
  | .member a, .member b => a == b
  | .method f as, .method g bs => f == g && Arg.sameAll as bs
  | _, _ => false
termination_by structural l => l

/-- Whether two lists of arguments are equal, one by one. -/
def Arg.sameAll : List Arg → List Arg → Bool
  | [], [] => true
  | a :: as, b :: bs => a.same b && Arg.sameAll as bs
  | _, _ => false
termination_by structural as => as

/-- Whether two lists of links are equal, one by one. -/
def Link.sameAll : List Link → List Link → Bool
  | [], [] => true
  | l :: ls, m :: ms => l.same m && Link.sameAll ls ms
  | _, _ => false
termination_by structural ls => ls
end

end ResourceTemplate
