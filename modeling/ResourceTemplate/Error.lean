/-
# What can go wrong

Every failure of building or dumping a template is a cause with the names it
concerns; its wording is fixed in one place. A failed look-up also says who
asked for the resource: a reference keeps its requester, and for an argument
it is the function or method that receives it.

Key definitions: `Requester`, `Requester.ofFunction`, `Error`,
`Error.message`, `Error.unresolvedName?`.
-/
import ResourceTemplate.Fault

namespace ResourceTemplate

/-- Who asks for a declared resource. -/
inductive Requester
  /-- An entry of a dependency list. -/
  | dependsOn
  /-- An argument of the function that makes resource identifiers. -/
  | resourceId
  /-- A reference assigned as a value. -/
  | reference
  /-- An argument of any other function or method. -/
  | argument (function : String)
  deriving DecidableEq, Repr

namespace Requester

/-- The requester for an argument of a function. -/
def ofFunction (function : String) : Requester :=
  if function = "resourceId" then .resourceId else .argument function

/-- The wording of a requester. -/
def text : Requester → String
  | .dependsOn => "depends_on"
  | .resourceId => "resource_id"
  | .reference => "reference"
  | .argument function => "argument of " ++ function ++ "()"

end Requester

/-- The failures of the library. -/
inductive Error
  /-- A reference names a resource that is not declared. -/
  | notFound (name : String) (requester : Requester)
  /-- A value cannot be an argument. -/
  | malformedArgument (function reason : String)
  /-- A resource is declared under a name that is taken. -/
  | duplicateResource (name : String)
  /-- The catalog has no such kind. -/
  | unknownKind (kind : String)
  /-- An entry of the resource collection is a plain value. -/
  | invalidResource (name : String)
  /-- The settings do not make a key style. -/
  | settings (reason : String)
  /-- A document cannot be written or read. -/
  | serialize (fault : Fault)
  deriving DecidableEq, Repr

namespace Error

/-- The wording of a failure. -/
def message : Error → String
  | .notFound name requester =>
    "resource '" ++ name ++ "' not found (referenced by " ++ requester.text ++ ")"
  | .malformedArgument function reason =>
    "malformed argument for " ++ function ++ "(): " ++ reason
  | .duplicateResource name => "resource '" ++ name ++ "' is already declared"
  | .unknownKind kind => "unknown resource kind '" ++ kind ++ "'"
  | .invalidResource name => "resource '" ++ name ++ "' must be a nested structure"
  | .settings reason => "failed to load key style settings: " ++ reason
  | .serialize fault => "failed to serialise template: " ++ fault.wording

/-- The name that a failed look-up was for. -/
def unresolvedName? : Error → Option String
  | .notFound name _ => some name
  | _ => none

end Error
end ResourceTemplate
