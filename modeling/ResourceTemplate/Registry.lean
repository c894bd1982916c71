/-
# Declared resources

A template registers each resource it declares, under the name of the
declaration. References stay names until a document is made, and are then
looked up here; so a resource may refer to one that is declared later.

Key definitions: `Resource`, `Resource.qualified`, `Registry`,
`Registry.find?`, `Registry.insert`, `Registry.resolve`.
Key theorems: `Registry.insert_eq_ok_iff`.
-/
import ResourceTemplate.KeyStyle
import ResourceTemplate.Error

namespace ResourceTemplate

/-- A resource by its name, its provider type and, if known, the version of
the provider's interface. -/
structure Resource where
  name : String
  providerType : String
  apiVersion? : Option String := none
  deriving DecidableEq, Repr

namespace Resource

/-- The name a document gives the resource. -/
def rendered (style : KeyStyle) (r : Resource) : String := style.spell r.name

/-- The provider type and the name, as a dependency list has them. -/
def qualified (style : KeyStyle) (r : Resource) : String :=
  r.providerType ++ "/" ++ r.rendered style

end Resource

/-- The declared resources, in the order of their declarations. -/
structure Registry where
  resources : List Resource := []
  deriving DecidableEq, Repr

namespace Registry

def empty : Registry := {}

/-- The resource declared under a name. -/
def find? (g : Registry) (name : String) : Option Resource :=
  g.resources.find? fun r => r.name == name

/-- The registry with one more resource; a name is declared once. -/
def insert (g : Registry) (r : Resource) : Except Error Registry :=
  match g.find? r.name with
  | some _ => .error (.duplicateResource r.name)
  | none => .ok { resources := g.resources ++ [r] }

/-- The resource declared under a name, on behalf of a requester. -/
def resolve (g : Registry) (name : String) (requester : Requester) : Except Error Resource :=
  match g.find? name with
  | some r => .ok r
  | none => .error (.notFound name requester)

theorem insert_eq_ok_iff {g g' : Registry} {r : Resource} :
    g.insert r = .ok g' ↔ g.find? r.name = none ∧ g' = { resources := g.resources ++ [r] } := by
  unfold insert
  cases g.find? r.name <;> simp [eq_comm]

end Registry
end ResourceTemplate
