/-!
# Integers of a fixed width

The word of a width that stands for an integer, where there is one.
-/

set_option autoImplicit false

namespace RecordFilter

def int32? (n : Int) : Option Int32 :=
  if Int32.minValue.toInt ≤ n ∧ n ≤ Int32.maxValue.toInt then some (Int32.ofInt n) else none

def int64? (n : Int) : Option Int64 :=
  if Int64.minValue.toInt ≤ n ∧ n ≤ Int64.maxValue.toInt then some (Int64.ofInt n) else none

def uint64? (n : Int) : Option UInt64 :=
  if 0 ≤ n ∧ n < UInt64.size then some (UInt64.ofNat n.toNat) else none

theorem int32?_eq_some_iff {n : Int} {word : Int32} :
    int32? n = some word ↔ word.toInt = n := by
  unfold int32?
  constructor
  · intro found
    split at found
    · obtain rfl := Option.some.inj found
      have lowest : Int32.minValue.toInt = -2147483648 := by decide
      have highest : Int32.maxValue.toInt = 2147483647 := by decide
      exact Int32.toInt_ofInt_of_le (by omega) (by omega)
    · simp at found
  · rintro rfl
    rw [if_pos ⟨Int32.minValue_le_toInt word, Int32.toInt_le word⟩, Int32.ofInt_toInt]

theorem int64?_eq_some_iff {n : Int} {word : Int64} :
    int64? n = some word ↔ word.toInt = n := by
  unfold int64?
  constructor
  · intro found
    split at found
    · obtain rfl := Option.some.inj found
      have lowest : Int64.minValue.toInt = -9223372036854775808 := by decide
      have highest : Int64.maxValue.toInt = 9223372036854775807 := by decide
      exact Int64.toInt_ofInt_of_le (by omega) (by omega)
    · simp at found
  · rintro rfl
    rw [if_pos ⟨Int64.minValue_le_toInt word, Int64.toInt_le word⟩, Int64.ofInt_toInt]

theorem uint64?_eq_some_iff {n : Int} {word : UInt64} :
    uint64? n = some word ↔ (word.toNat : Int) = n := by
  unfold uint64?
  constructor
  · intro found
    split at found
    · obtain rfl := Option.some.inj found
      rw [UInt64.toNat_ofNat_of_lt' (by omega)]
      omega
    · simp at found
  · rintro rfl
    have highest := UInt64.toNat_lt_size word
    rw [if_pos ⟨by omega, by omega⟩, Int.toNat_natCast, UInt64.ofNat_toNat]

end RecordFilter
