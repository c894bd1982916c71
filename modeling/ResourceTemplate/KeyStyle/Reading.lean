/-
# Reading a key style from a document

A key style is an object with the optional fields `camel_keys` and
`camel_style`, or a list of the same two in that order; what is missing has
its standard value, and other fields are ignored. The case of the first
letter is given by its name, or as an object that has the name as its only
field, with `null` under it. Parts are read in the order in which they are
written, and the first that does not fit is the one reported.

Key definitions: `LetterCase.name`, `Mismatch`, `Mismatch.reason`,
`KeyStyle.readField`, `KeyStyle.read`.
-/
import ResourceTemplate.Document.Printer
import ResourceTemplate.Entries
import ResourceTemplate.Error
import ResourceTemplate.KeyStyle
import ResourceTemplate.Text.Shown

namespace ResourceTemplate

/-! ### Names -/

/-- The field that says whether names are spelled in camel case. -/
def camelKeysField : String := "camel_keys"

/-- The field that gives the case of the first letter. -/
def camelStyleField : String := "camel_style"

/-- The name of a case in settings. -/
def LetterCase.name : LetterCase → String
  | .lower => "no_leading"
  | .upper => "leading"

/-- The case of a name. -/
def LetterCase.ofName? (name : String) : Option LetterCase :=
  if name = "no_leading" then some .lower
  else if name = "leading" then some .upper
  else none

/-! ### Mismatches -/

/-- How a document fails to be what is wanted. -/
inductive Mismatch
  /-- It has another form. -/
  | form (found : Document) (wanted : String)
  /-- It names no case. -/
  | unknownCase (name : String)
  /-- It is an object that does not have one field. -/
  | notSingle
  /-- It is a list with too many items. -/
  | tooLong (length : Nat)

/-- The form of a document, as a message names it. -/
def Document.form : Document → String
  | .null => "null"
  | .bool flag => "boolean `" ++ Text.ofFlag flag ++ "`"
  | .int number => "integer `" ++ Text.ofInt number ++ "`"
  | .float number => "floating point `" ++ Document.numberText number ++ "`"
  | .str text => "string " ++ Text.shown text
  | .list _ => "sequence"
  | .object _ => "map"

/-- The wording of a mismatch. -/
def Mismatch.reason : Mismatch → String
  | .form found wanted => "invalid type: " ++ found.form ++ ", expected " ++ wanted
  | .unknownCase name => "unknown variant `" ++ name ++ "`, expected `no_leading` or `leading`"
  | .notSingle => "invalid value: map, expected map with a single key"
  | .tooLong length =>
    "invalid length " ++ Text.ofInt length ++ ", expected fewer elements in array"

/-! ### Reading -/

/-- Whether names are spelled in camel case. -/
def readCamel : Document → Except Mismatch Bool
  | .bool flag => .ok flag
  | d => .error (.form d "a boolean")

/-- The case of a name, which must be known. -/
def readCaseName (name : String) : Except Mismatch LetterCase :=
  match LetterCase.ofName? name with
  | some c => .ok c
  | none => .error (.unknownCase name)

/-- The case of the first letter. -/
def readCase : Document → Except Mismatch LetterCase
  | .str name => readCaseName name
  | .object [(name, d)] => do
    let c ← readCaseName name
    match d with
    | .null => return c
    | d => throw (.form d "unit")
  | .object _ => .error .notSingle
  | d => .error (.form d "string or map")

/-- The style with a field read into it; fields of other names are ignored. -/
def KeyStyle.readField (style : KeyStyle) (field : String × Document) : Except Mismatch KeyStyle :=
  if field.1 = camelKeysField then do
    let camel ← readCamel field.2
    return { style with camel }
  else if field.1 = camelStyleField then do
    let initial ← readCase field.2
    return { style with initial }
  else .ok style

/-- The standard style with fields read into it, one after the other. -/
def KeyStyle.readFields (fields : List (String × Document)) : Except Mismatch KeyStyle :=
  fields.foldlM KeyStyle.readField .standard

/-- A key style from a document. -/
def KeyStyle.read : Document → Except Mismatch KeyStyle
  | .object fields => KeyStyle.readFields fields
  | .list items => do
    let style ← KeyStyle.readFields ([camelKeysField, camelStyleField].zip items)
    if 2 < items.length then throw (.tooLong items.length)
    return style
  | d => .error (.form d "struct KeyStyle")

/-- A key style from a document, with a mismatch as a failure of the
library. -/
def KeyStyle.ofDocument (d : Document) : Except Error KeyStyle :=
  (KeyStyle.read d).mapError fun m => .serialize (.plain m.reason)

end ResourceTemplate
