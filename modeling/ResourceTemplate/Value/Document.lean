/-
# Values in a document

Data keep their form, an expression becomes its text in brackets and a
reference the type and the name of its resource. Items and entries are taken
in order and the first failure is the answer.

Key definitions: `Reference.text`, `Value.document`.
-/
import ResourceTemplate.Document.Basic
import ResourceTemplate.Expr.Text
import ResourceTemplate.Value.Basic

namespace ResourceTemplate

/-- The text of a reference. -/
def Reference.text (s : Scope) : Reference → Except Error String
  | .literal text => return text
  | .declared name requester => do
    let r ← s.registry.resolve name requester
    return r.qualified s.style

mutual
/-- The document that a value stands for. -/
def Value.document (s : Scope) : Value → Except Error Document
  | .null => return .null
  | .bool flag => return .bool flag
  | .int number => return .int number
  | .float number => return if number.isFinite then .float number else .null
  | .str text => return .str text
  | .list items => do
    let ds ← Value.documents s items
    return .list ds
  | .map entries => do
    let fields ← Value.fields s entries
    return .object fields
  | .expr e => do
    let t ← e.bracketed s
    return .str t
  | .ref r => do
    let t ← r.text s
    return .str t
termination_by structural v => v

/-- The documents of the items of a list. -/
def Value.documents (s : Scope) : List Value → Except Error (List Document)
  | [] => return []
  | v :: vs => do
    let d ← v.document s
    let ds ← Value.documents s vs
    return d :: ds
termination_by structural vs => vs

/-- The fields of a mapping, under the names it has. -/
def Value.fields (s : Scope) : List (String × Value) → Except Error (List (String × Document))
  | [] => return []
  | (name, v) :: rest => do
    let d ← v.document s
    let fields ← Value.fields s rest
    return (name, d) :: fields
termination_by structural entries => entries
end

end ResourceTemplate
