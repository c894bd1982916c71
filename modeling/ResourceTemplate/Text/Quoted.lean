/-
# Quoted literals of the expression language

A string literal stands between apostrophes, and an apostrophe inside it is
written twice.

Key definitions: `Text.escape`, `Text.quote`.
Key theorems: `Text.toList_quote`.
-/

namespace ResourceTemplate
namespace Text

/-- The inside of a literal: apostrophes are doubled. -/
def escape : List Char → List Char
  | [] => []
  | c :: cs => if c = '\'' then '\'' :: '\'' :: escape cs else c :: escape cs

/-- A text as a literal. -/
def quote (text : String) : String :=
  String.ofList ('\'' :: escape text.toList ++ ['\''])

theorem toList_quote (text : String) :
    (quote text).toList = '\'' :: escape text.toList ++ ['\''] := by
  simp [quote]

end Text
end ResourceTemplate
