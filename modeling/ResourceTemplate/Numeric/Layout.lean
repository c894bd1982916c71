/-
# How a decimal is laid out as text

A layout says when a number is written positionally and when with an
exponent, and whether a whole number shows a fraction. The sign of a number
is always written, that of a negative zero too.

Key definitions: `Layout`, `Decimal.positional`, `Decimal.scientific`,
`Binary64.finiteText`.
-/
import ResourceTemplate.Numeric.Shortest

namespace ResourceTemplate

/-- The decisions of a number format. -/
structure Layout where
  /-- Which of two shortest decimals is written. -/
  tie : Tie
  /-- The decimal exponents that are written positionally, from the first to
  the second; with none given, all are. -/
  plain : Option (Int × Int)
  /-- Whether a whole number ends in a point and a zero. -/
  pointed : Bool

namespace Decimal

/-- A decimal without an exponent. -/
def positional (pointed : Bool) (d : Decimal) : List Char :=
  let whole := d.digits.length
  if d.point ≤ 0 then '0' :: '.' :: List.replicate (-d.point).toNat '0' ++ d.digits
  else if whole ≤ d.point then
    d.digits ++ List.replicate (d.point - whole).toNat '0' ++ (if pointed then ['.', '0'] else [])
  else d.digits.take d.point.toNat ++ '.' :: d.digits.drop d.point.toNat

/-- A decimal as one digit, its further digits after a point, and an exponent
with its sign. -/
def scientific (d : Decimal) : List Char :=
  let exponent := d.point - 1
  let mantissa := match d.digits with
    | first :: second :: rest => first :: '.' :: second :: rest
    | ds => ds
  mantissa ++ 'e' :: (if exponent < 0 then '-' else '+') :: Nat.toDigits 10 exponent.natAbs

/-- A decimal as a layout wants it. -/
def text (l : Layout) (d : Decimal) : List Char :=
  match l.plain with
  | none => d.positional l.pointed
  | some (least, greatest) =>
    if least ≤ d.point - 1 && d.point - 1 ≤ greatest then d.positional l.pointed
    else d.scientific

end Decimal

/-- A finite number as a layout wants it. -/
def Binary64.finiteText (l : Layout) (x : Binary64) : String :=
  let size :=
    if x.isZero then (if l.pointed then ['0', '.', '0'] else ['0'])
    else (x.shortest l.tie).text l
  String.ofList (if x.isNegative then '-' :: size else size)

end ResourceTemplate
