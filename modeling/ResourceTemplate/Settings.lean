/-
# The key style in settings

Settings come in layers: the environment, and any objects laid over it. Later
layers win field by field, and only the setting that a field has in the end is
checked; a field that no layer has keeps its standard value.

A variable of the environment is a setting if its name, taken without the
spaces around it, starts with a fixed text in any case. What follows, in lower
case, is the path to a field, its names parted by full stops; a path with an
empty name leads nowhere, and the variable is ignored.

Key definitions: `Settings.path?`, `Settings.environment`, `Settings.layer`,
`Setting.flag?`, `Setting.letterCase?`, `Settings.keyStyle`.
-/
import ResourceTemplate.KeyStyle.Reading
import ResourceTemplate.Setting.Text

namespace ResourceTemplate

namespace Setting

/-- The flag that a setting is. -/
def flag? : Setting → Option Bool
  | .flag value => some value
  | _ => none

/-- The letter case that a setting names: by a text, or by the least name of a
map, which must have no value. -/
def letterCase? : Setting → Option LetterCase
  | .text name => LetterCase.ofName? name
  | .map fields =>
    match Entries.least? fields with
    | some (name, .nothing) => LetterCase.ofName? name
    | _ => none
  | _ => none

end Setting

namespace Settings

/-- What the names of the variables start with, in lower case. -/
def variableStart : String := "armtree_"

/-- The path that the name of a variable gives. -/
def path? (variableName : String) : Option (List String) := do
  let cs := (Text.trim variableName.toList).map Char.toLower
  let rest ← Text.behind? variableStart.toList cs
  let names := Text.segments '.' (Text.trim rest)
  if names.any List.isEmpty then none else some (names.map String.ofList)

/-- The layer of one variable. -/
def ofVariable (v : String × String) : Entries Setting :=
  match path? v.1 with
  | some path => Setting.nested path (.ofText v.2)
  | none => []

/-- The layer of the environment. A variable that is set again has the later
text in its earlier place, and later variables lie on top. -/
def environment (vars : List (String × String)) : Entries Setting :=
  Setting.stack ((Entries.ofList vars).map ofVariable)

/-- The layer of an object. -/
def layer (fields : List (String × Document)) : Entries Setting :=
  Setting.ofFields fields

/-- What is read from a field, or the standard if the field is missing. -/
def readPart {α : Type} (read : Setting → Option α) (standard : α) (fault : String) :
    Option Setting → Except Error α
  | none => .ok standard
  | some s =>
    match read s with
    | some a => .ok a
    | none => .error (.settings fault)

/-- The key style of layers, the last on top. -/
def keyStyle (layers : List (Entries Setting)) : Except Error KeyStyle := do
  let settings := Setting.stack layers
  let camel ← readPart Setting.flag? KeyStyle.standard.camel
    (camelKeysField ++ " must be a flag") (settings.get? camelKeysField)
  let initial ← readPart Setting.letterCase? KeyStyle.standard.initial
    (camelStyleField ++ " must name a letter case") (settings.get? camelStyleField)
  return { camel, initial }

end Settings
end ResourceTemplate
