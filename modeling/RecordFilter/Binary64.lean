/-!
# Binary floating-point numbers of 64 bits

A number is its 64 bits: a sign, eleven bits of exponent and fifty-two of fraction. The
order is that of the numbers the bits stand for, with both zeros equal and no order for
the values that are not numbers. Integers and decimal fractions are rounded to the
nearest number, a tie going to the even neighbour; all of it is exact integer arithmetic.
-/

set_option autoImplicit false

namespace RecordFilter

structure Binary64 where
  /-- Sign, exponent and fraction, from the highest bit down. -/
  bits : UInt64
  deriving DecidableEq, Inhabited, Repr

namespace Binary64

/-! ## Fields -/

def signBit : Nat :=
  0x8000000000000000

def leadingBit : Nat :=
  0x10000000000000

def isNegative (x : Binary64) : Bool :=
  signBit ≤ x.bits.toNat

/-- The bits without the sign. They grow with the absolute value of the number. -/
def magnitude (x : Binary64) : Nat :=
  x.bits.toNat % signBit

/-- The magnitude of the infinities; larger ones are not numbers. -/
def infinity : Nat :=
  0x7ff0000000000000

def isNaN (x : Binary64) : Bool :=
  infinity < x.magnitude

def isInfinite (x : Binary64) : Bool :=
  x.magnitude = infinity

def ofParts (negative : Bool) (magnitude : Nat) : Binary64 :=
  ⟨UInt64.ofNat ((if negative then signBit else 0) + magnitude)⟩

def negate (x : Binary64) : Binary64 :=
  ofParts (!x.isNegative) x.magnitude

/-- The integer `m` in the absolute value `m * 2 ^ q` of a finite number. -/
def significand (x : Binary64) : Nat :=
  if x.magnitude < leadingBit then x.magnitude else x.magnitude % leadingBit + leadingBit

/-- The exponent `q` in the absolute value `m * 2 ^ q` of a finite number. -/
def exponent (x : Binary64) : Int :=
  (max (x.magnitude / leadingBit) 1 : Nat) - 1075

/-! ## Order -/

/-- The place of a number on the line: its magnitude with its sign. Both zeros stand at
zero. -/
def rank (x : Binary64) : Int :=
  if x.isNegative then -(x.magnitude : Int) else x.magnitude

/-- The order of two numbers; `none` when one of them is not a number. -/
def order (x y : Binary64) : Option Ordering :=
  if x.isNaN || y.isNaN then none else some (compare x.rank y.rank)

/-! ## Rounding -/

/-- The quotient rounded to the nearest integer, a tie to the even one. -/
def roundQuotient (numerator denominator : Nat) : Nat :=
  let quotient := numerator / denominator
  let twice := 2 * (numerator % denominator)
  if denominator < twice || (twice = denominator && quotient % 2 = 1) then quotient + 1
  else quotient

/-- The largest `e` such that `2 ^ e` does not exceed the positive fraction. -/
def binaryExponent (numerator denominator : Nat) : Int :=
  let difference : Int := (numerator.log2 : Int) - denominator.log2
  let below :=
    if 0 ≤ difference then numerator < denominator * Nat.pow 2 difference.toNat
    else numerator * Nat.pow 2 (-difference).toNat < denominator
  if below then difference - 1 else difference

/-- The magnitude of the number nearest to a fraction, a tie going to the even
neighbour. The significand is cut at 53 bits, or at the lowest bit that any number has;
a significand that rounds up to the next power of two carries into the exponent. -/
def nearestMagnitude (numerator denominator : Nat) : Nat :=
  if numerator = 0 then 0
  else
    let shift := max (binaryExponent numerator denominator - 52) (-1074)
    let rounded :=
      if 0 ≤ shift then roundQuotient numerator (denominator * Nat.pow 2 shift.toNat)
      else roundQuotient (numerator * Nat.pow 2 (-shift).toNat) denominator
    min ((shift + 1074).toNat * leadingBit + rounded) infinity

def ofFraction (negative : Bool) (numerator denominator : Nat) : Binary64 :=
  ofParts negative (nearestMagnitude numerator denominator)

def ofInt (n : Int) : Binary64 :=
  ofFraction (n < 0) n.natAbs 1

/-! ## Integers among the numbers -/

def toInt? (x : Binary64) : Option Int :=
  if infinity ≤ x.magnitude then none
  else
    let absolute :=
      if 0 ≤ x.exponent then some (x.significand * Nat.pow 2 x.exponent.toNat)
      else
        let unit := Nat.pow 2 (-x.exponent).toNat
        if x.significand % unit = 0 then some (x.significand / unit) else none
    absolute.map fun n => if x.isNegative then -(n : Int) else n

def ofInt? (n : Int) : Option Binary64 :=
  if (ofInt n).toInt? = some n then some (ofInt n) else none

end Binary64

end RecordFilter
