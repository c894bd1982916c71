/-
# The shortest decimal of a binary number

Of the decimals that round to a positive binary number, the one with the
fewest digits is wanted, and of several with that many the nearest. The
search tries one digit, then two, and so on: if a point of a decimal grid
rounds to the number, so does one of the number's two neighbours on that
grid, and seventeen digits always suffice. All of it is arithmetic on
natural numbers.

Key definitions: `Tie`, `Reach`, `Reach.nearest?`, `Decimal`,
`Binary64.shortest`.
-/
import ResourceTemplate.Numeric.Binary64

namespace ResourceTemplate

/-- Which of two equally near decimals is taken. -/
inductive Tie
  | even
  | up
  deriving DecidableEq, Repr

/-- The reals that round to a value: those from `low / one` to
`high / one`, the ends included if `closed`; the value is `value / one`. -/
structure Reach where
  low : Nat
  value : Nat
  high : Nat
  one : Nat
  closed : Bool

/-- A positive decimal: `0.d₁d₂… · 10 ^ point`, with no zero at either end of
its digits. -/
structure Decimal where
  digits : List Char
  point : Int
  deriving DecidableEq, Repr

namespace Reach

/-- The reach of a positive number: halfway to both its neighbours. -/
def ofBinary64 (x : Binary64) : Reach :=
  let quarter := Nat.pow 2 (x.scale - 2).toNat
  let middle := 4 * x.significand
  { low := (if x.narrowBelow then middle - 1 else middle - 2) * quarter
    value := middle * quarter
    high := (middle + 2) * quarter
    one := Nat.pow 2 (2 - x.scale).toNat
    closed := x.significand % 2 == 0 }

/-- The same reals, with `10 ^ power` as the unit. -/
def inUnits (r : Reach) (power : Int) : Reach :=
  let finer := Nat.pow 10 (-power).toNat
  { r with
    low := r.low * finer
    value := r.value * finer
    high := r.high * finer
    one := r.one * Nat.pow 10 power.toNat }

/-- Whether the whole number `n` is in reach. -/
def covers (r : Reach) (n : Nat) : Bool :=
  if r.closed then r.low ≤ n * r.one && n * r.one ≤ r.high
  else r.low < n * r.one && n * r.one < r.high

/-- The whole number in reach that is nearest to the value, if there is one. -/
def nearest? (tie : Tie) (r : Reach) : Option Nat :=
  let below := r.value / r.one
  let gapBelow := r.value - below * r.one
  let gapAbove := (below + 1) * r.one - r.value
  if r.covers below && r.covers (below + 1) then
    if gapBelow < gapAbove then some below
    else if gapAbove < gapBelow then some (below + 1)
    else match tie with
      | .even => some (if below % 2 = 0 then below else below + 1)
      | .up => some (below + 1)
  else if r.covers below then some below
  else if r.covers (below + 1) then some (below + 1)
  else none

/-- The least power of ten above the value, by its exponent. -/
def magnitude (r : Reach) : Int :=
  if r.one ≤ r.value then (Nat.toDigits 10 (r.value / r.one)).length
  else 1 - ((Nat.toDigits 10 ((r.one - 1) / r.value)).length : Int)

end Reach

namespace Decimal

/-- The decimal `n · 10 ^ power` of a positive `n`. -/
def ofNat (n : Nat) (power : Int) : Decimal :=
  let ds := Nat.toDigits 10 n
  { digits := (ds.reverse.dropWhile (· == '0')).reverse
    point := ds.length + power }

end Decimal

/-- The shortest decimal that rounds to a positive finite number. One of
seventeen grids has a point in reach, so the last case is never taken. -/
def Binary64.shortest (tie : Tie) (x : Binary64) : Decimal :=
  let r := Reach.ofBinary64 x
  let tries := (List.range 17).map fun i => r.magnitude - (i + 1 : Nat)
  match tries.findSome? fun power => (r.inUnits power).nearest? tie |>.map (·, power) with
  | some (n, power) => .ofNat n power
  | none => .ofNat x.significand 0

end ResourceTemplate
