import RecordFilter.Binary64

/-!
# Values

The scalars that records hold and predicates compare with, each of one type, and a null
that has none.
-/

set_option autoImplicit false

namespace RecordFilter

inductive ScalarType where
  | boolean
  | int32
  | int64
  | varchar
  | uint64
  | float64
  /-- Milliseconds since the beginning of 1970. -/
  | timestamp
  deriving DecidableEq, Repr

namespace ScalarType

def name : ScalarType → String
  | boolean => "boolean"
  | int32 => "int32"
  | int64 => "int64"
  | varchar => "varchar"
  | uint64 => "uint64"
  | float64 => "float64"
  | timestamp => "timestamp"

def all : List ScalarType :=
  [boolean, int32, int64, varchar, uint64, float64, timestamp]

/-- Whether the values of a type are numbers. Timestamps are not. -/
def isNumeric : ScalarType → Bool
  | int32 | int64 | uint64 | float64 => true
  | boolean | varchar | timestamp => false

end ScalarType

inductive Value where
  | null
  | boolean (value : Bool)
  | int32 (value : Int32)
  | int64 (value : Int64)
  | uint64 (value : UInt64)
  | float64 (value : Binary64)
  | string (value : String)
  | timestamp (value : Int64)
  deriving DecidableEq, Inhabited

namespace Value

/-- The type of a value; null has none. -/
def type? : Value → Option ScalarType
  | null => none
  | boolean _ => some .boolean
  | int32 _ => some .int32
  | int64 _ => some .int64
  | uint64 _ => some .uint64
  | float64 _ => some .float64
  | string _ => some .varchar
  | timestamp _ => some .timestamp

def isNull : Value → Bool
  | null => true
  | _ => false

def text? : Value → Option String
  | string text => some text
  | _ => none

def integer? : Value → Option Int
  | int32 n => some n.toInt
  | int64 n => some n.toInt
  | uint64 n => some n.toNat
  | _ => none

/-- The floating-point number of a numeric value, an integer being rounded to one. -/
def number? : Value → Option Binary64
  | float64 x => some x
  | int32 n => some (.ofInt n.toInt)
  | int64 n => some (.ofInt n.toInt)
  | uint64 n => some (.ofInt n.toNat)
  | _ => none

def isNaN : Value → Bool
  | float64 x => x.isNaN
  | _ => false

theorem type?_eq_none_iff {v : Value} : v.type? = none ↔ v = null := by
  cases v <;> simp [type?]

end Value

end RecordFilter
