/-
# The text of a document

A document is written either on one line without blanks, or with one item or
field on each line, indented by two blanks for each level. Empty lists and
objects stay on one line. In a string only the quotation mark, the backslash
and the control characters below U+0020 are escaped.

Key definitions: `Document.compact`, `Document.pretty`, `Document.quote`,
`documentLayout`.
-/
import ResourceTemplate.Document.Basic
import ResourceTemplate.Numeric.Layout
import ResourceTemplate.Text.Scalar

namespace ResourceTemplate

/-- Numbers in documents are positional from 10⁻⁵ to below 10¹⁶, a whole
number shows a fraction, and of two nearest decimals the even one is
taken. -/
def documentLayout : Layout where
  tie := .even
  plain := some (-5, 15)
  pointed := true

namespace Document

/-! ### Strings and numbers -/

/-- A hexadecimal digit in lower case. -/
def hexDigit (n : Nat) : Char :=
  if n < 10 then Char.ofNat (48 + n) else Char.ofNat (87 + n)

/-- A character inside a string. -/
def escapeChar (c : Char) : List Char :=
  if c = '"' then ['\\', '"']
  else if c = '\\' then ['\\', '\\']
  else if c = '\n' then ['\\', 'n']
  else if c = '\r' then ['\\', 'r']
  else if c = '\t' then ['\\', 't']
  else if c.toNat = 0x08 then ['\\', 'b']
  else if c.toNat = 0x0C then ['\\', 'f']
  else if c.toNat < 0x20 then
    ['\\', 'u', '0', '0', hexDigit (c.toNat / 16), hexDigit (c.toNat % 16)]
  else [c]

/-- A string with its quotation marks. -/
def quote (text : String) : String :=
  String.ofList ('"' :: text.toList.flatMap escapeChar ++ ['"'])

/-- A floating-point number; what is not finite has no form but `null`. -/
def numberText (x : Binary64) : String :=
  if x.isFinite then x.finiteText documentLayout else "null"

/-! ### On one line -/

mutual
/-- A document on one line. -/
def compact : Document → String
  | .null => "null"
  | .bool flag => Text.ofFlag flag
  | .int number => Text.ofInt number
  | .float number => numberText number
  | .str text => quote text
  | .list items => "[" ++ ",".intercalate (compactItems items) ++ "]"
  | .object fields => "\x7b" ++ ",".intercalate (compactFields fields) ++ "\x7d"
termination_by structural d => d

/-- The items of a list, each on one line. -/
def compactItems : List Document → List String
  | [] => []
  | d :: ds => d.compact :: compactItems ds
termination_by structural ds => ds

/-- The fields of an object, each on one line. -/
def compactFields : List (String × Document) → List String
  | [] => []
  | (name, d) :: rest => (quote name ++ ":" ++ d.compact) :: compactFields rest
termination_by structural fields => fields
end

/-! ### On several lines -/

/-- Lines between an opening and a closing mark, one level further in. -/
def block (indent : String) (opening closing : String) (lines : List String) : String :=
  if lines.isEmpty then opening ++ closing
  else
    opening ++ "\n" ++ ",\n".intercalate (lines.map (indent ++ "  " ++ ·)) ++
      "\n" ++ indent ++ closing

mutual
/-- A document on several lines, of which all but the first are indented. -/
def prettyAt : Document → String → String
  | .null, _ => "null"
  | .bool flag, _ => Text.ofFlag flag
  | .int number, _ => Text.ofInt number
  | .float number, _ => numberText number
  | .str text, _ => quote text
  | .list items, indent => block indent "[" "]" (prettyItems items (indent ++ "  "))
  | .object fields, indent => block indent "\x7b" "\x7d" (prettyFields fields (indent ++ "  "))
termination_by structural d => d

/-- The items of a list, each on its lines. -/
def prettyItems : List Document → String → List String
  | [], _ => []
  | d :: ds, indent => d.prettyAt indent :: prettyItems ds indent
termination_by structural ds => ds

/-- The fields of an object, each on its lines. -/
def prettyFields : List (String × Document) → String → List String
  | [], _ => []
  | (name, d) :: rest, indent =>
    (quote name ++ ": " ++ d.prettyAt indent) :: prettyFields rest indent
termination_by structural fields => fields
end

/-- A document on several lines. -/
def pretty (d : Document) : String := d.prettyAt ""

end Document
end ResourceTemplate
