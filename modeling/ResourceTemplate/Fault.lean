/-
# What is wrong with a document, and where

A fault is a text that may name a place by its line and column. It is worded
as the text with the place behind it, so a text that already ends in a worded
place is the fault with that place; of several places at its end only the last
counts. Lines are counted from one: a place on line zero is no place.

Key definitions: `Place`, `Fault`, `Fault.wording`, `Fault.ofText`.
-/
import ResourceTemplate.Text.Cut
import ResourceTemplate.Text.Scalar

namespace ResourceTemplate

/-- A place in a text. -/
structure Place where
  line : Nat
  column : Nat
  deriving DecidableEq, Repr

/-- What is wrong, and where if that is known. -/
structure Fault where
  text : String
  place? : Option Place
  deriving DecidableEq, Repr

namespace Place

/-- The words before the line of a place. -/
def lineMark : String := " at line "

/-- The words before the column of a place. -/
def columnMark : String := " column "

/-- The wording of a place. -/
def wording (place : Place) : String :=
  lineMark ++ Text.ofInt place.line ++ columnMark ++ Text.ofInt place.column

/-- The greatest line and the greatest column. -/
def greatest : Nat := 0xFFFFFFFFFFFFFFFF

/-- The number that a run of digits stands for; there is at least one digit,
and zeros in front do not count. -/
def number? (ds : List Char) : Option Nat :=
  let n := ds.foldl (fun n d => 10 * n + (d.toNat - '0'.toNat)) 0
  if !ds.isEmpty && n ≤ greatest then some n else none

/-- The place that a text behind the words for the line is. -/
def ofText? (cs : List Char) : Option Place := do
  let rest ← Text.behind? columnMark.toList (cs.dropWhile Char.isDigit)
  if !rest.all Char.isDigit then none
  let line ← number? (cs.takeWhile Char.isDigit)
  let column ← number? rest
  return { line, column }

end Place

namespace Fault

/-- A fault at no place. -/
def plain (text : String) : Fault := ⟨text, none⟩

/-- The wording of a fault. -/
def wording (fault : Fault) : String :=
  match fault.place? with
  | none => fault.text
  | some place => fault.text ++ place.wording

/-- The fault that a text is. -/
def ofText (text : String) : Fault :=
  match Text.cutAtLast? Place.lineMark.toList text.toList with
  | none => plain text
  | some (before, behind) =>
    match Place.ofText? behind with
    | none => plain text
    | some place => ⟨String.ofList before, if place.line = 0 then none else some place⟩

end Fault
end ResourceTemplate
