/-
# White space around texts

Two classes of white space are told apart: the blanks, which are the five of
ASCII that also stand between the parts of a setting, and the spaces, which
are all the characters of Unicode that are white space.

Key definitions: `Text.isBlank`, `Text.isSpace`, `Text.skipBlanks`, `Text.trim`.
-/

namespace ResourceTemplate
namespace Text

/-- The blank, the tabulator, the line feed, the form feed and the carriage
return. -/
def isBlank (c : Char) : Bool :=
  c == ' ' || c == '\t' || c == '\n' || c == '\x0c' || c == '\r'

/-- The characters of Unicode that are white space. -/
def isSpace (c : Char) : Bool :=
  let n := c.toNat
  (0x09 ≤ n && n ≤ 0x0D) || n == 0x20 || n == 0x85 || n == 0xA0 || n == 0x1680 ||
    (0x2000 ≤ n && n ≤ 0x200A) || n == 0x2028 || n == 0x2029 || n == 0x202F ||
    n == 0x205F || n == 0x3000

/-- A text without the blanks that it starts with. -/
def skipBlanks (cs : List Char) : List Char :=
  cs.dropWhile isBlank

/-- A text without the spaces around it. -/
def trim (cs : List Char) : List Char :=
  ((cs.dropWhile isSpace).reverse.dropWhile isSpace).reverse

end Text
end ResourceTemplate
