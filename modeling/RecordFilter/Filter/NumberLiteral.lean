import RecordFilter.Value.Basic
import RecordFilter.Value.Width

/-!
# Number literals

A run of digits, perhaps with a point and digits after it. A whole literal is read
exactly: as a signed word, or an unsigned one where only that is wide enough. A literal
with a point is the nearest floating-point number.
-/

set_option autoImplicit false

namespace RecordFilter.Filter

/-- The digits before the point and, if there is a point, those after it. -/
structure NumberLiteral where
  whole : List Char
  fraction : Option (List Char)
  deriving DecidableEq

def digitsValue (digits : List Char) : Nat :=
  digits.foldl (fun n c => 10 * n + (c.toNat - '0'.toNat)) 0

namespace NumberLiteral

def text (literal : NumberLiteral) : String :=
  match literal.fraction with
  | none => String.ofList literal.whole
  | some fraction => String.ofList (literal.whole ++ '.' :: fraction)

/-- The value of a literal behind a sign, or of a bare one. A whole literal outside the
range of the words has none. -/
def value? (literal : NumberLiteral) (negative : Bool) : Option Value :=
  match literal.fraction with
  | some fraction =>
    some (.float64 (.ofFraction negative (digitsValue (literal.whole ++ fraction))
      (Nat.pow 10 fraction.length)))
  | none =>
    let n : Int := digitsValue literal.whole
    if negative then (int64? (-n)).map .int64
    else (int64? n).map .int64 <|> (uint64? n).map .uint64

end NumberLiteral

end RecordFilter.Filter
