/-
# Templates while they are built

A draft holds a template as the building steps find it: the tree in cells,
the declared resources in a mapping from their names. A step works on the
draft and may fail on the way, and what it did until then stays done. A
declaration therefore looks up all it needs before it writes.

The document is made from the template that the draft holds.

Key definitions: `Draft`, `Draft.Build`, `Draft.declareThen`,
`Draft.performThen`, `Draft.perform`, `Draft.outcome`, `Draft.after`,
`Draft.run`, `Draft.template`.
-/
import ResourceTemplate.Cell
import ResourceTemplate.Template

namespace ResourceTemplate

/-- A template while it is built. -/
structure Draft where
  name : String
  style : KeyStyle := .standard
  root : Cell := .fresh
  registry : Entries Resource := []
  catalog : Catalog := .azure

namespace Draft

/-- What works on a draft and may fail; the draft is there in either case. -/
abbrev Build := ExceptT Error (StateM Draft)

/-- What came of it, and the draft that it leaves. -/
def Build.exec {α : Type} (b : Build α) (d : Draft) : Except Error α × Draft := b.run.run d

/-- Registers a resource under its name, which must be new. -/
def register (r : Resource) : Build Unit := do
  match Entries.get? (← get).registry r.name with
  | some _ => throw (.duplicateResource r.name)
  | none => modify fun d => { d with registry := Entries.insert d.registry r.name r }

/-- The branch of a resource with the attributes that a declaration writes. -/
def seed (r : Resource) (c : Cell) : Cell :=
  let typed := c.set "type" (.str r.providerType)
  match r.apiVersion? with
  | none => typed
  | some version => typed.set "api_version" (.str version)

/-- Declares a resource: registers it, and writes its attributes into its
branch. A declaration gives access to this branch, and `f` is then done to
it. -/
def declareThen (f : Cell → Cell) (r : Resource) : Build Unit := do
  register r
  modify fun d => { d with
    root := d.root.child resourcesField (Cell.child r.name fun branch => f (seed r branch)) }

/-- Declares a resource and does nothing more to its branch. -/
def declare : Resource → Build Unit := declareThen id

/-- Looks up a kind in the catalog of the moment. -/
def known (kind : String) : Build Kind := do
  match (← get).catalog.lookup kind with
  | .ok known => return known
  | .error e => throw e

/-- A building step, and if it is a declaration, what is then done to the
branch that it gives access to. -/
def performThen (f : Cell → Cell) : Template.Step → Build Unit
  | .declare name providerType => declareThen f { name, providerType }
  | .declareKind kind name => do
    let known ← known kind
    declareThen f {
      name := Template.nameOfKind kind name
      providerType := known.providerType
      apiVersion? := some known.apiVersion }
  | .restyle style => modify fun d => { d with style }
  | .recatalog catalog => modify fun d => { d with catalog }
  | .openResources => modify fun d => { d with root := d.root.write [] (.child resourcesField) }
  | .edit e => modify fun d => { d with root := d.root.edit e }

/-- A building step by itself. -/
def perform : Template.Step → Build Unit := performThen id

/-- What comes of a step. -/
def outcome (d : Draft) (s : Template.Step) : Except Error Unit := ((perform s).exec d).1

/-- The draft that a step leaves, whatever came of it. -/
def after (d : Draft) (s : Template.Step) : Draft := ((perform s).exec d).2

/-- The draft that steps leave. -/
def run (d : Draft) (steps : List Template.Step) : Draft := steps.foldl after d

/-- The template that a draft holds. -/
def template (d : Draft) : Template where
  name := d.name
  style := d.style
  root := d.root.node
  registry := { resources := d.registry.map (·.2) }
  catalog := d.catalog

end Draft
end ResourceTemplate
