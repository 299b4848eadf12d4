import RecordFilter.Value.Basic

/-!
# Order of values

Values are ordered within a family: truth values, strings by code points, timestamps and
integers by the integers they stand for, and numbers of which one is a floating-point
number by the nearest floating-point numbers. Across families, with null, and for a
floating-point value that is not a number there is no order.
-/

set_option autoImplicit false

namespace RecordFilter.Value

/-- The order of two values of one family. -/
def order : Value → Value → Option Ordering
  | boolean a, boolean b => some (compare a b)
  | string a, string b => some (compare a b)
  | timestamp a, timestamp b => some (compare a.toInt b.toInt)
  | timestamp a, b => b.integer?.map fun n => compare a.toInt n
  | a, timestamp b => a.integer?.map fun n => compare n b.toInt
  | float64 a, b => b.number?.bind fun y => a.order y
  | a, float64 b => a.number?.bind fun x => x.order b
  | a, b => a.integer?.bind fun m => b.integer?.map fun n => compare m n

/-- Whether two values have one type and are equal in it. Floating-point values are
compared as numbers, so zeros of either sign are equal and what is not a number equals
nothing. -/
def equal : Value → Value → Bool
  | float64 a, float64 b => a.order b = some .eq
  | a, b => a = b

end RecordFilter.Value
