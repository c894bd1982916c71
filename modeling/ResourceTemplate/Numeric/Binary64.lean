/-
# Binary floating-point numbers of 64 bits

A number is its 64 bits: a sign, an exponent of eleven bits and a fraction of
52. Its bits are read here as integers, so everything that is said of a
number is a statement about natural numbers. Equality of numbers is not
equality of bits: a NaN differs from itself and the two zeros agree.

Key definitions: `Binary64`, `Binary64.agrees`, `Binary64.significand`,
`Binary64.scale`.
-/

namespace ResourceTemplate

/-- A number by its bits. -/
structure Binary64 where
  bits : UInt64
  deriving DecidableEq, Repr

namespace Binary64

/-- The 52 bits after the exponent. -/
def fraction (x : Binary64) : Nat := x.bits.toNat % 0x10000000000000

/-- The eleven bits of the exponent. -/
def exponent (x : Binary64) : Nat := x.bits.toNat / 0x10000000000000 % 0x800

/-- Whether the sign bit is set. -/
def isNegative (x : Binary64) : Bool := 0x8000000000000000 ≤ x.bits.toNat

def isNaN (x : Binary64) : Bool := x.exponent == 2047 && x.fraction != 0

def isFinite (x : Binary64) : Bool := x.exponent != 2047

def isZero (x : Binary64) : Bool := x.exponent == 0 && x.fraction == 0

/-- Equality of numbers: a NaN agrees with nothing, and zeros agree whatever
their sign. -/
def agrees (x y : Binary64) : Bool :=
  !x.isNaN && !y.isNaN && (x.bits == y.bits || x.isZero && y.isZero)

/-- The integer `m` of a finite number `± m · 2 ^ q`. -/
def significand (x : Binary64) : Nat :=
  if x.exponent = 0 then x.fraction else 0x10000000000000 + x.fraction

/-- The power `q` of a finite number `± m · 2 ^ q`. -/
def scale (x : Binary64) : Int :=
  if x.exponent = 0 then -1074 else (x.exponent : Int) - 1075

/-- Whether the next smaller number is only half as far away as the next
larger one: so it is where a power of two is crossed. -/
def narrowBelow (x : Binary64) : Bool := x.fraction == 0 && 1 < x.exponent

end Binary64
end ResourceTemplate
