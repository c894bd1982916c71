/-
# Settings written as texts

The text of a setting is `true`, `false`, a map of fields between braces, a
list between brackets, a quoted text with escapes and without bare control
characters, a character between apostrophes, or a bare text, which ends before
a brace, a bracket or a comma and is taken without the spaces around it.
Blanks may stand around each of them. A text that is not all of one setting is
a setting as it stands.

A reader takes something from the start of a text and gives the rest back with
it. The readers of settings call each other: each step inwards and each step to
the next item spends one unit of fuel. Every two steps take a character, so
twice the length of the text is fuel enough.

Key definitions: `Setting.readQuoted`, `Setting.readSetting`, `Setting.ofText`.
-/
import ResourceTemplate.Setting.Basic
import ResourceTemplate.Text.Blank
import ResourceTemplate.Text.Cut

namespace ResourceTemplate
namespace Setting

/-- What takes something from the start of a text and leaves the rest. -/
abbrev Reader (α : Type) := List Char → Option (α × List Char)

/-! ### Quoted texts -/

/-- Where a reader of a quoted text stands. -/
inductive Inside
  /-- Between two characters. -/
  | plain
  /-- Behind a backslash. -/
  | escape
  /-- Before the last `left + 1` digits of a code point. -/
  | digits (left number : Nat)

/-- The value of a hexadecimal digit. -/
def hexDigit? (c : Char) : Option Nat :=
  if '0' ≤ c ∧ c ≤ '9' then some (c.toNat - '0'.toNat)
  else if 'a' ≤ c ∧ c ≤ 'f' then some (c.toNat - 'a'.toNat + 10)
  else if 'A' ≤ c ∧ c ≤ 'F' then some (c.toNat - 'A'.toNat + 10)
  else none

/-- The character of a code point; the surrogates have none. -/
def charOf? (n : Nat) : Option Char :=
  if (Char.ofNat n).toNat = n then some (Char.ofNat n) else none

/-- The character for which a letter stands behind a backslash. -/
def escaped? (c : Char) : Option Char :=
  if c = '"' then some '"'
  else if c = '\\' then some '\\'
  else if c = 'b' then some '\x08'
  else if c = 'f' then some '\x0c'
  else if c = 'n' then some '\n'
  else if c = 'r' then some '\r'
  else if c = 't' then some '\t'
  else none

/-- The characters that stand for themselves in a quoted text: all but the
control characters of ASCII, of which the tabulator alone does. -/
def isQuotable (c : Char) : Bool :=
  c == '\t' || (0x20 ≤ c.toNat && c.toNat != 0x7F)

/-- Reads a quoted text up to its closing quotation mark. A letter behind a
backslash stands for a character, and `u` or `U` for the code point of the
next four or eight digits; so a control character can be written this way. -/
def readQuoted : Inside → Reader (List Char)
  | _, [] => none
  | .plain, c :: cs =>
    if c = '"' then some ([], cs)
    else if c = '\\' then readQuoted .escape cs
    else if isQuotable c then (readQuoted .plain cs).map fun (cs, rest) => (c :: cs, rest)
    else none
  | .escape, c :: cs =>
    if c = 'u' then readQuoted (.digits 3 0) cs
    else if c = 'U' then readQuoted (.digits 7 0) cs
    else do
      let char ← escaped? c
      (readQuoted .plain cs).map fun (cs, rest) => (char :: cs, rest)
  | .digits left number, c :: cs => do
    let digit ← hexDigit? c
    match left with
    | left + 1 => readQuoted (.digits left (16 * number + digit)) cs
    | 0 =>
      let char ← charOf? (16 * number + digit)
      (readQuoted .plain cs).map fun (cs, rest) => (char :: cs, rest)

/-! ### Parts of a map -/

/-- The characters of a name without quotation marks. -/
def isNameChar (c : Char) : Bool := c.isAlphanum || c == '_' || c == '-'

/-- The characters of a bare text. -/
def isBare (c : Char) : Bool := !(c == ',' || c == '\x7b' || c == '\x7d' || c == '[' || c == ']')

/-- Reads the name of a field. -/
def readName : Reader String
  | [] => none
  | c :: cs =>
    if c = '"' then (readQuoted .plain cs).map fun (name, rest) => (String.ofList name, rest)
    else if isNameChar c then
      some (String.ofList (c :: cs.takeWhile isNameChar), cs.dropWhile isNameChar)
    else none

/-- Reads the name of a field and the sign of equality behind it. -/
def readNameSign : Reader String := fun cs => do
  let (name, rest) ← readName (Text.skipBlanks cs)
  match Text.skipBlanks rest with
  | '=' :: rest => return (name, rest)
  | _ => none

/-- Reads a bare text. -/
def readBare : Reader Setting := fun cs =>
  some (.text (String.ofList (Text.trim (cs.takeWhile isBare))), cs.dropWhile isBare)

/-- Reads `true` or `false`. -/
def readFlag : Reader Setting := fun cs =>
  match Text.behind? "true".toList cs with
  | some rest => some (.flag true, rest)
  | none => (Text.behind? "false".toList cs).map fun rest => (.flag false, rest)

/-! ### Settings -/

/-- A reader that also takes the blanks before and behind. -/
def spaced {α : Type} (read : Reader α) : Reader α := fun cs =>
  (read (Text.skipBlanks cs)).map fun (a, rest) => (a, Text.skipBlanks rest)

mutual

/-- Reads a setting. -/
def readSetting : Nat → Reader Setting
  | 0, _ => none
  | _ + 1, [] => readBare []
  | fuel + 1, c :: cs =>
    if c = '\x7b' then
      (readFields fuel cs).map fun (fields, rest) => (.map (Entries.ofList fields), rest)
    else if c = '[' then (readItems fuel cs).map fun rest => (.other, rest)
    else if c = '"' then
      (readQuoted .plain cs).map fun (cs, rest) => (.text (String.ofList cs), rest)
    else if c = '\x27' then
      match cs with
      | _ :: '\x27' :: rest => some (.other, rest)
      | _ => none
    else (readFlag (c :: cs)).or (readBare (c :: cs))
termination_by structural fuel => fuel

/-- Reads the fields of a map up to its closing brace; a comma may stand
behind the last field. -/
def readFields : Nat → Reader (List (String × Setting))
  | 0, _ => none
  | fuel + 1, cs =>
    match cs with
    | '\x7d' :: rest => some ([], rest)
    | _ => do
      let (name, rest) ← readNameSign cs
      let (s, rest) ← spaced (readSetting fuel) rest
      match rest with
      | ',' :: rest =>
        (readFields fuel rest).map fun (fields, rest) => ((name, s) :: fields, rest)
      | '\x7d' :: rest => return ([(name, s)], rest)
      | _ => none
termination_by structural fuel => fuel

/-- Reads the items of a list up to its closing bracket; a comma may stand
behind the last item. -/
def readItems : Nat → List Char → Option (List Char)
  | 0, _ => none
  | fuel + 1, cs =>
    match cs with
    | ']' :: rest => some rest
    | _ => do
      let (_, rest) ← spaced (readSetting fuel) cs
      match rest with
      | ',' :: rest => readItems fuel rest
      | ']' :: rest => return rest
      | _ => none
termination_by structural fuel => fuel

end

/-- The setting that a text stands for. -/
def ofText (text : String) : Setting :=
  let cs := text.toList
  match spaced (readSetting (2 * cs.length + 2)) cs with
  | some (s, []) => s
  | _ => .text text

end Setting
end ResourceTemplate
