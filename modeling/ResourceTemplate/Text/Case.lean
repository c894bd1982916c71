/-
# Upper case and lower case of a character

The case maps send a character to one or more characters (`ß` to `SS`), with
no regard to context or language. ASCII letters are mapped by arithmetic and
every other character by the tables.

Key definitions: `Case.upper`, `Case.lower`.
Key theorems: `Case.upper_of_ascii`, `Case.lower_of_ascii`.
-/
import ResourceTemplate.Text.CaseTable

namespace ResourceTemplate
namespace Case

/-- Whether the run names the code point `n`. -/
def Run.covers (r : Run) (n : Nat) : Bool :=
  r.first ≤ n && n ≤ r.last && (n - r.first) % r.step == 0

/-- The code point that a run maps `n` to, if it names `n`. -/
def Run.image (r : Run) (n : Nat) : Nat :=
  r.target + (n - r.first)

/-- The image of the code point `n`: its expansion, else its place in a run,
else `n` itself. -/
def image (runs : List Run) (expansions : List (Nat × List Nat)) (n : Nat) : List Nat :=
  match expansions.lookup n with
  | some ns => ns
  | none =>
    match runs.find? (·.covers n) with
    | some r => [r.image n]
    | none => [n]

/-- The upper case of a character. -/
def upper (c : Char) : List Char :=
  if c.toNat < 0x80 then [c.toUpper]
  else (image upperRuns upperExpansions c.toNat).map Char.ofNat

/-- The lower case of a character. -/
def lower (c : Char) : List Char :=
  if c.toNat < 0x80 then [c.toLower]
  else (image lowerRuns lowerExpansions c.toNat).map Char.ofNat

theorem upper_of_ascii {c : Char} (h : c.toNat < 0x80) : upper c = [c.toUpper] :=
  if_pos h

theorem lower_of_ascii {c : Char} (h : c.toNat < 0x80) : lower c = [c.toLower] :=
  if_pos h

end Case
end ResourceTemplate
