/-
# Templates

A template is built step by step: resources are declared, attributes written,
the key style and the catalog exchanged. Declaring a resource registers it
and writes its type (and for a resource of a known kind the version) into its
branch of the tree; a declaration that fails changes nothing. The document is
made from the finished template, so it sees every declaration.

Key definitions: `Template`, `Template.declare`, `Template.declareKind`,
`Template.Step`, `Template.step`, `Template.run`, `Template.document`.
-/
import ResourceTemplate.Catalog
import ResourceTemplate.Document.Printer
import ResourceTemplate.Node.Document

namespace ResourceTemplate

/-- A template under construction. -/
structure Template where
  name : String
  style : KeyStyle := .standard
  root : Node := .empty
  registry : Registry := .empty
  catalog : Catalog := .azure

namespace Template

/-- The path of a resource's branch. -/
def resourcePath (name : String) : List String := [resourcesField, name]

/-- The attributes that a declaration writes. -/
def seed (r : Resource) (n : Node) : Node :=
  let typed := n.set (resourcePath r.name) "type" (.str r.providerType)
  match r.apiVersion? with
  | none => typed
  | some version => typed.set (resourcePath r.name) "api_version" (.str version)

/-- The template with a resource registered and its attributes written. -/
def add (t : Template) (r : Resource) : Except Error Template := do
  let registry ← t.registry.insert r
  return { t with registry, root := seed r t.root }

/-- The template with a resource of a provider type declared. -/
def declare (t : Template) (name providerType : String) : Except Error Template :=
  t.add { name, providerType }

/-- The name of a resource that is declared by its kind. -/
def nameOfKind (kind name : String) : String := name ++ "_" ++ kind

/-- The template with a resource of a known kind declared. -/
def declareKind (t : Template) (kind name : String) : Except Error Template := do
  let known ← t.catalog.lookup kind
  t.add {
    name := nameOfKind kind name
    providerType := known.providerType
    apiVersion? := some known.apiVersion }

/-- A step of building a template. -/
inductive Step
  | declare (name providerType : String)
  | declareKind (kind name : String)
  | restyle (style : KeyStyle)
  | recatalog (catalog : Catalog)
  | openResources
  | edit (e : Node.Edit)

/-- The template after a step. -/
def step (t : Template) : Step → Except Error Template
  | .declare name providerType => t.declare name providerType
  | .declareKind kind name => t.declareKind kind name
  | .restyle style => .ok { t with style }
  | .recatalog catalog => .ok { t with catalog }
  | .openResources => .ok { t with root := t.root.reach [resourcesField] }
  | .edit e => .ok { t with root := t.root.edit e }

/-- The template after a step that may fail and then changes nothing. -/
def attempt (t : Template) (s : Step) : Template :=
  match t.step s with
  | .ok t' => t'
  | .error _ => t

/-- The template after steps, each of which may fail. -/
def run (t : Template) (steps : List Step) : Template := steps.foldl attempt t

/-- What the template's document depends on. -/
def scope (t : Template) : Scope := { style := t.style, registry := t.registry }

/-- The document of the template. -/
def document (t : Template) : Except Error Document := t.root.document t.scope

/-- The text of the template's document, on several lines. -/
def pretty (t : Template) : Except Error String := do
  let d ← t.document
  return d.pretty

end Template
end ResourceTemplate
