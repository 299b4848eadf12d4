import RecordFilter.Binary64

/-!
# Shortest decimals

The decimal with the fewest digits among those that round to a given binary number, and
of those with as few digits the nearest; of two equally near ones the larger. A number
of digits is tried by looking at the two neighbours of the number on the grid with that
many digits.
-/

set_option autoImplicit false

namespace RecordFilter

structure Decimal where
  digits : Nat
  exponent : Int
  deriving DecidableEq, Repr

namespace Decimal

/-- The interval of the fractions that round to one number, over a common denominator.
The ends belong to it if `closed`. -/
structure Interval where
  low : Nat
  middle : Nat
  high : Nat
  denominator : Nat
  closed : Bool

/-- The interval of a positive finite number. Its ends are half way to the neighbours;
the lower neighbour of a power of two is only half as far away as the upper one. -/
def interval (x : Binary64) : Interval :=
  let m := x.significand
  let below := if m = Binary64.leadingBit && Binary64.leadingBit < x.magnitude then 1 else 2
  let quarter := x.exponent - 2
  let factor := Nat.pow 2 quarter.toNat
  { low := (4 * m - below) * factor
    middle := 4 * m * factor
    high := (4 * m + 2) * factor
    denominator := Nat.pow 2 (-quarter).toNat
    closed := m % 2 = 0 }

def Interval.holds (i : Interval) (n : Nat) : Bool :=
  if i.closed then i.low ≤ n && n ≤ i.high else i.low < n && n < i.high

/-- The interval in units of `10 ^ t`, so that grid points become multiples of its
denominator. -/
def Interval.inUnits (i : Interval) (t : Int) : Interval :=
  let up := Nat.pow 10 (-t).toNat
  { i with
    low := i.low * up
    middle := i.middle * up
    high := i.high * up
    denominator := i.denominator * Nat.pow 10 t.toNat }

/-- The point of the grid with unit `10 ^ t` that lies in the interval, the nearer one of
two and the upper one of two equally near. -/
def Interval.gridPoint? (i : Interval) (t : Int) : Option Nat :=
  let scaled := i.inUnits t
  let unit := scaled.denominator
  let lower := scaled.middle / unit
  match scaled.holds (lower * unit), scaled.holds ((lower + 1) * unit) with
  | false, false => none
  | true, false => some lower
  | false, true => some (lower + 1)
  | true, true => some (if 2 * (scaled.middle % unit) < unit then lower else lower + 1)

/-- The least `k` such that the middle of the interval is below `10 ^ k`. The binary
exponent gives it up to one. -/
def Interval.decimalPlaces (i : Interval) : Int :=
  let estimate := Binary64.binaryExponent i.middle i.denominator * 30103 / 100000 + 1
  let below (k : Int) : Bool :=
    i.middle * Nat.pow 10 (-k).toNat < i.denominator * Nat.pow 10 k.toNat
  if below (estimate - 1) then estimate - 1
  else if below estimate then estimate
  else estimate + 1

def Interval.search (i : Interval) (places : Int) : Nat → Nat → Option Decimal
  | 0, _ => none
  | attempts + 1, count =>
    match i.gridPoint? (places - count) with
    | some digits => some ⟨digits, places - count⟩
    | none => i.search places attempts (count + 1)

/-- Drops the zeros at the end of the digits; no number has more of them than its digits
allow. -/
def trim : Nat → Decimal → Decimal
  | 0, d => d
  | steps + 1, d =>
    if d.digits % 10 = 0 then trim steps ⟨d.digits / 10, d.exponent + 1⟩ else d

/-- The shortest decimal that rounds to the absolute value of a finite number. Seventeen
digits always suffice. -/
def shortest (x : Binary64) : Decimal :=
  if x.magnitude = 0 then ⟨0, 0⟩
  else
    let i := interval x
    ((i.search i.decimalPlaces 17 1).getD ⟨0, 0⟩).trim 18

end Decimal

end RecordFilter
