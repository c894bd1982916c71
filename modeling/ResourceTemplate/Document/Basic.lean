/-
# Documents

A document is ordered data: objects keep their fields in the order in which
they were written.

Key definitions: `Document`.
-/
import ResourceTemplate.Numeric.Binary64

namespace ResourceTemplate

/-- A document; its floating-point numbers are finite. -/
inductive Document
  | null
  | bool (flag : Bool)
  | int (number : Int)
  | float (number : Binary64)
  | str (text : String)
  | list (items : List Document)
  | object (fields : List (String × Document))

end ResourceTemplate
