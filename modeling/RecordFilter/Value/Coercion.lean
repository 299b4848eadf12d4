import RecordFilter.Value.Basic
import RecordFilter.Value.Width

/-!
# Coercion

Moving a value into another type without loss. Integers move between the integer types
and into timestamps as long as they fit, and into floating-point numbers that equal
them; a timestamp moves into a signed integer. Null moves nowhere.
-/

set_option autoImplicit false

namespace RecordFilter.Value

/-- The value of a type that stands for the same as the given value. -/
def coerce (v : Value) (type : ScalarType) : Option Value :=
  match v, type with
  | boolean b, .boolean => some (boolean b)
  | string text, .varchar => some (string text)
  | float64 x, .float64 => some (float64 x)
  | timestamp t, .timestamp => some (timestamp t)
  | timestamp t, .int64 => some (int64 t)
  | v, .int32 => (v.integer?.bind int32?).map int32
  | v, .int64 => (v.integer?.bind int64?).map int64
  | v, .uint64 => (v.integer?.bind uint64?).map uint64
  | v, .timestamp => (v.integer?.bind int64?).map timestamp
  | v, .float64 => (v.integer?.bind Binary64.ofInt?).map float64
  | _, .boolean => none
  | _, .varchar => none

theorem coerce_null (type : ScalarType) : null.coerce type = none := by
  cases type <;> rfl

theorem type?_of_coerce {v coerced : Value} {type : ScalarType}
    (success : v.coerce type = some coerced) : coerced.type? = some type := by
  unfold coerce at success
  split at success
  all_goals first
    | (obtain rfl := Option.some.inj success; rfl)
    | (obtain ⟨_, _, rfl⟩ := Option.map_eq_some_iff.mp success; rfl)
    | exact absurd success nofun

end RecordFilter.Value
