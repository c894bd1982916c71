/-
# Values of the attribute tree

A value is what a leaf of the tree holds: plain data, expressions, and
references to resources, nested at any depth. The names in a mapping are the
caller's data and are never spelled by a style.

Key definitions: `Reference`, `Value`, `Value.ofEntries`, `Value.dependsOn`,
`Value.same`.
-/
import ResourceTemplate.Entries
import ResourceTemplate.Error
import ResourceTemplate.Expr.Basic

namespace ResourceTemplate

/-- A reference to a resource: a text to be written as it is, or the name of
a declared resource with the requester to be named if it is not declared. -/
inductive Reference
  | literal (text : String)
  | declared (name : String) (requester : Requester)
  deriving DecidableEq, Repr

namespace Reference

/-- A reference to a declared resource. -/
def toResource (name : String) : Reference := .declared name .reference

/-- The reference on behalf of a requester; a literal has none. -/
def recordedBy (requester : Requester) : Reference → Reference
  | .literal text => .literal text
  | .declared name _ => .declared name requester

end Reference

/-- A value. -/
inductive Value
  | null
  | bool (flag : Bool)
  | int (number : Int)
  | float (number : Binary64)
  | str (text : String)
  | list (items : List Value)
  | map (entries : List (String × Value))
  /-- An expression, written in brackets. -/
  | expr (e : Expr)
  /-- A reference, written as a provider type and a name. -/
  | ref (r : Reference)

namespace Value

/-- The mapping with the given entries; a repeated name keeps its first place
and its last value. -/
def ofEntries (es : List (String × Value)) : Value := .map (Entries.ofList es)

/-- A list of dependencies. -/
def dependsOn (refs : List Reference) : Value :=
  .list (refs.map fun r => .ref (r.recordedBy .dependsOn))

end Value

/-! ### Equality

Floating-point numbers are compared as numbers and mappings without regard to
the order of their names. -/

mutual
/-- Whether two values are equal. -/
def Value.same : Value → Value → Bool
  | .null, .null => true
  | .bool a, .bool b => a == b
  | .int a, .int b => a == b
  | .float a, .float b => a.agrees b
  | .str a, .str b => a == b
  | .list as, .list bs => Value.sameAll as bs
  | .map as, .map bs => as.length == bs.length && Value.sameUnder bs as
  | .expr a, .expr b => a.same b
  | .ref a, .ref b => a == b
  | _, _ => false
termination_by structural v => v

/-- Whether two lists of values are equal, one by one. -/
def Value.sameAll : List Value → List Value → Bool
  | [], [] => true
  | a :: as, b :: bs => a.same b && Value.sameAll as bs
  | _, _ => false
termination_by structural as => as

/-- Whether each entry has an equal one under its name in `others`. -/
def Value.sameUnder (others : List (String × Value)) : List (String × Value) → Bool
  | [] => true
  | (name, a) :: rest =>
    (match Entries.get? others name with
      | some b => a.same b
      | none => false) && Value.sameUnder others rest
termination_by structural rest => rest
end

end ResourceTemplate
