/-
# The functions of the template language

One builder for each function that templates use. A builder fixes the name of
its function; it takes its arguments one by one where their number is fixed,
and as a list where it is not.

Key definitions: `Intrinsic.resourceId`, `Intrinsic.parameters`,
`Intrinsic.stackOutput`.
-/
import ResourceTemplate.Expr.Basic

namespace ResourceTemplate
namespace Intrinsic

/-! ### Arithmetic -/

def add (left right : Arg) : Expr := .call "add" [left, right]

def sub (left right : Arg) : Expr := .call "sub" [left, right]

def mul (left right : Arg) : Expr := .call "mul" [left, right]

def div (left right : Arg) : Expr := .call "div" [left, right]

/-- The remainder of a division. -/
def modulo (left right : Arg) : Expr := .call "mod" [left, right]

def int (value : Arg) : Expr := .call "int" [value]

/-! ### Text -/

def concat (args : List Arg) : Expr := .call "concat" args

def base64 (value : Arg) : Expr := .call "base64" [value]

def string (value : Arg) : Expr := .call "string" [value]

def length (value : Arg) : Expr := .call "length" [value]

def replace (args : List Arg) : Expr := .call "replace" args

def split (value delimiter : Arg) : Expr := .call "split" [value, delimiter]

/-- A part of a text, from a start and, if given, of a length. -/
def substring (args : List Arg) : Expr := .call "substring" args

def toLower (value : Arg) : Expr := .call "toLower" [value]

def toUpper (value : Arg) : Expr := .call "toUpper" [value]

def trim (value : Arg) : Expr := .call "trim" [value]

def uniqueString (args : List Arg) : Expr := .call "uniqueString" args

def uri (base relative : Arg) : Expr := .call "uri" [base, relative]

/-- A text filled up to a width, with a character if one is given. -/
def padLeft (args : List Arg) : Expr := .call "padLeft" args

/-! ### The deployment -/

/-- The index of a copy, moved by an offset if one is given. -/
def copyIndex (args : List Arg) : Expr := .call "copyIndex" args

def deployment : Expr := .call "deployment" []

/-- A parameter of the template. -/
def parameters (key : Key) : Expr := .call "parameters" [.name key]

/-- A variable of the template. -/
def templateVariables (key : Key) : Expr := .call "variables" [.name key]

def resourceGroup : Expr := .call "resourceGroup" []

def subscription : Expr := .call "subscription" []

/-! ### Resources -/

def listKeys (args : List Arg) : Expr := .call "listKeys" args

def providers (args : List Arg) : Expr := .call "providers" args

def reference (args : List Arg) : Expr := .call "reference" args

/-- The identifier of a resource; a declared resource among the arguments
stands for its provider type and its name. -/
def resourceId (args : List Arg) : Expr := .call "resourceId" args

/-- The identifier of a resource whose type and name are known. -/
def directResourceId (providerType name : String) : Expr :=
  resourceId [.str (providerType ++ "/" ++ name)]

/-- An output of another stack. -/
def stackOutput (stack output : Key) : Expr :=
  ((reference [.name stack]).property "outputs").propertyKey output |>.property "value"

end Intrinsic
end ResourceTemplate
