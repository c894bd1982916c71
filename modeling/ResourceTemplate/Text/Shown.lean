/-
# Texts shown inside messages

A message shows a text between quotation marks on one line: the quotation
mark, the backslash and the usual control characters have short escapes, and
every other character that does not print by itself stands as its code point
in hexadecimal digits.

Key definitions: `Text.showChar`, `Text.shown`.
-/
import ResourceTemplate.Text.UnprintedTable

namespace ResourceTemplate
namespace Text

/-- Whether a character prints by itself. -/
def prints (c : Char) : Bool :=
  0x20 ≤ c.toNat && !unprintedRanges.any fun r => r.1 ≤ c.toNat && c.toNat ≤ r.2

/-- A character in a shown text. -/
def showChar (c : Char) : List Char :=
  if c = '"' then ['\\', '"']
  else if c = '\\' then ['\\', '\\']
  else if c = '\n' then ['\\', 'n']
  else if c = '\r' then ['\\', 'r']
  else if c = '\t' then ['\\', 't']
  else if c.toNat = 0 then ['\\', '0']
  else if prints c then [c]
  else ['\\', 'u', '\x7b'] ++ Nat.toDigits 16 c.toNat ++ ['\x7d']

/-- A text as a message shows it. -/
def shown (text : String) : String :=
  String.ofList ('"' :: text.toList.flatMap showChar ++ ['"'])

end Text
end ResourceTemplate
