/-
# Values as arguments

Scalars, texts, expressions and references can be arguments of a function;
`null`, sequences and mappings have no form inside an expression.

Key definitions: `Arg.ofValue`, `Expr.callOn`.
-/
import ResourceTemplate.Value.Basic

namespace ResourceTemplate

/-- A value as an argument of a function. -/
def Arg.ofValue (function : String) : Value → Except Error Arg
  | .bool flag => .ok (.bool flag)
  | .int number => .ok (.int number)
  | .float number => .ok (.float number)
  | .str text => .ok (.str text)
  | .expr e => .ok (.expr e)
  | .ref (.literal text) => .ok (.str text)
  | .ref (.declared target _) => .ok (.resource target)
  | .null => .error (.malformedArgument function "null is not a valid argument")
  | .list _ => .error (.malformedArgument function "sequences are not valid arguments")
  | .map _ => .error (.malformedArgument function "mappings are not valid arguments")

/-- The call of a function on values; the first that is no argument decides. -/
def Expr.callOn (function : String) (values : List Value) : Except Error Expr := do
  let args ← values.mapM (Arg.ofValue function)
  return .call function args

end ResourceTemplate
