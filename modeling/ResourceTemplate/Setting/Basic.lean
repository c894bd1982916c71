/-
# Settings

A setting is what a layer of settings says of a field, as far as a key style
can use it: numbers and lists are settings of no use and not told apart.
Layers lie on top of each other: a map laid over a map is merged with it
field by field, and anything else takes the place of what it covers.

Key definitions: `Setting`, `Setting.ofDocument`, `Setting.lay`,
`Setting.stack`, `Setting.nested`.
-/
import ResourceTemplate.Document.Basic
import ResourceTemplate.Entries

namespace ResourceTemplate

/-- What a layer says of a field. -/
inductive Setting
  | flag (value : Bool)
  | text (value : String)
  /-- The field is there and has no value. -/
  | nothing
  /-- A number, a character or a list. -/
  | other
  | map (fields : List (String × Setting))

namespace Setting

mutual

/-- The setting that a document stands for; its texts are not read further. -/
def ofDocument : Document → Setting
  | .null => .nothing
  | .bool value => .flag value
  | .str value => .text value
  | .object fields => .map (ofFields fields)
  | .int _ | .float _ | .list _ => .other
termination_by structural d => d

/-- The settings that the fields of an object stand for. -/
def ofFields : List (String × Document) → Entries Setting
  | [] => []
  | (name, d) :: fields => (name, ofDocument d) :: ofFields fields
termination_by structural fields => fields

end

mutual

/-- A setting laid over `below`. -/
def lay (below : Setting) : Setting → Setting
  | .map fields =>
    match below with
    | .map fieldsBelow => .map (layAll fieldsBelow fields)
    | _ => .map fields
  | .flag value => .flag value
  | .text value => .text value
  | .nothing => .nothing
  | .other => .other
termination_by structural top => top

/-- Fields laid over `below`, one after the other. -/
def layAll (below : Entries Setting) : List (String × Setting) → Entries Setting
  | [] => below
  | (name, top) :: fields =>
    layAll
      (Entries.alter name (fun covered =>
        match covered with
        | some s => lay s top
        | none => top) below)
      fields
termination_by structural fields => fields

end

/-- Layers on top of each other, the last on top. -/
def stack (layers : List (Entries Setting)) : Entries Setting :=
  layers.foldl layAll []

/-- The layer that has a setting at the end of a path of fields. -/
def nested : List String → Setting → Entries Setting
  | [], _ => []
  | [name], s => [(name, s)]
  | name :: path, s => [(name, .map (nested path s))]

end Setting
end ResourceTemplate
