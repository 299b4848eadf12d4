import RecordFilter.Proofs.Sql.Codecs

/-!
# Order along coercions

Moving values into the type of a column keeps their order, unless the column holds
floating-point numbers. The types apart from these are of two kinds: a boolean or a string
stays the same value, and every other value stands for the same integer before and after.
-/

set_option autoImplicit false

namespace RecordFilter.Value

variable {v w coerced other : Value} {type : ScalarType}

/-- A value that moves into an integer type or into timestamps stands for one integer on both
sides. -/
theorem exists_instant_of_coerce (moved : v.coerce type = some coerced)
    (instant : type.isInstant = true) :
    ∃ n, v.instant? = some n ∧ coerced.instant? = some n := by
  cases coercion_of_coerce moved with
  | instant before after _ => exact ⟨_, before, after⟩
  | boolean | string | float | rounded => cases instant

/-- A value that moves into any other type but that of floating-point numbers is of it. -/
theorem eq_of_coerce (moved : v.coerce type = some coerced) (fixed : type.isInstant = false)
    (exact : type ≠ .float64) : coerced = v := by
  cases coercion_of_coerce moved with
  | boolean | string => rfl
  | float | rounded => exact absurd rfl exact
  | instant _ _ instant =>
      rw [fixed] at instant
      cases instant

theorem order_coerced (moved : v.coerce type = some coerced) (exact : type ≠ .float64) :
    v.order coerced = some .eq := by
  cases coercion_of_coerce moved with
  | boolean b => exact congrArg some Std.ReflOrd.compare_self
  | string text => exact congrArg some Std.ReflOrd.compare_self
  | instant before after _ =>
      rw [order_of_instant? before after, Std.ReflOrd.compare_self]
  | float | rounded => exact absurd rfl exact

theorem order_coerce (left : v.coerce type = some coerced) (right : w.coerce type = some other)
    (exact : type ≠ .float64) : coerced.order other = v.order w := by
  cases kind : type.isInstant with
  | true =>
      obtain ⟨m, before, after⟩ := exists_instant_of_coerce left kind
      obtain ⟨n, otherBefore, otherAfter⟩ := exists_instant_of_coerce right kind
      rw [order_of_instant? after otherAfter, order_of_instant? before otherBefore]
  | false => rw [eq_of_coerce left kind exact, eq_of_coerce right kind exact]

/-- Coercion into any type but that of floating-point numbers embeds the order: two values
compare as the moved ones do, each equals the moved one, which is of the type and moves no
further. The columns in which the native codec stores them compare as the values do, too. -/
theorem coerce_embeds (exact : type ≠ .float64) (left : v.coerce type = some coerced)
    (right : w.coerce type = some other) :
    coerced.order other = v.order w ∧ v.order coerced = some .eq ∧
      coerced.type? = some type ∧ coerced.coerce type = some coerced ∧
      ∃ column next, (Sql.Codec.native type).encode v = .ok [column] ∧
        (Sql.Codec.native type).encode w = .ok [next] ∧ column.order next = v.order w := by
  have typed := type?_of_coerce left
  have otherTyped := type?_of_coerce right
  have kept := order_coerce left right exact
  refine ⟨kept, order_coerced left exact, typed, coerce_of_type? typed, Sql.stored coerced,
    Sql.stored other, Sql.nativeEncode_of_coerce left, Sql.nativeEncode_of_coerce right, ?_⟩
  rw [order_stored (typed.trans otherTyped.symm), kept]

/-- A time before 1970 and the largest signed word, in a column of signed words. -/
theorem coerce_embeds_edges :
    (timestamp (-1)).coerce .int64 = some (int64 (-1)) ∧
      (uint64 0x7fffffffffffffff).coerce .int64 = some (int64 0x7fffffffffffffff) ∧
      (int64 (-1)).order (int64 0x7fffffffffffffff) =
        (timestamp (-1)).order (uint64 0x7fffffffffffffff) ∧
      (timestamp (-1)).order (int64 (-1)) = some .eq := by
  have left : (timestamp (-1)).coerce .int64 = some (int64 (-1)) := by decide +kernel
  have right : (uint64 0x7fffffffffffffff).coerce .int64 = some (int64 0x7fffffffffffffff) := by
    decide +kernel
  obtain ⟨kept, equal, _⟩ := coerce_embeds (by decide) left right
  exact ⟨left, right, kept, equal⟩

end RecordFilter.Value
