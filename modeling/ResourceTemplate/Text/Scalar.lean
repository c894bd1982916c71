/-
# Flags and integers as text

A flag is one of two words. An integer is its decimal digits, with no zero in
front, after a minus sign if it is negative.

Key definitions: `Text.ofFlag`, `Text.ofInt`.
-/

namespace ResourceTemplate
namespace Text

/-- A flag as text. -/
def ofFlag (flag : Bool) : String :=
  if flag then "true" else "false"

/-- The characters of an integer. -/
def integerDigits : Int → List Char
  | .ofNat n => Nat.toDigits 10 n
  | .negSucc n => '-' :: Nat.toDigits 10 (n + 1)

/-- An integer as text. -/
def ofInt (number : Int) : String :=
  String.ofList (integerDigits number)

end Text
end ResourceTemplate
