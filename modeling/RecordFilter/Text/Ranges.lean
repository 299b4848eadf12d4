/-!
# Code point ranges

A class of characters is given by its code points, written as ascending inclusive
ranges. The class modules beside this one hold one list of ranges each.
-/

set_option autoImplicit false

namespace RecordFilter.Text

/-- Whether one of the ascending inclusive ranges covers a code point. The search
stops at the first range that ends at or after the point. -/
def covers : List (Nat × Nat) → Nat → Bool
  | [], _ => false
  | (first, last) :: ranges, point =>
    if point < first then false
    else if point ≤ last then true
    else covers ranges point

theorem exists_mem_of_covers {ranges : List (Nat × Nat)} {point : Nat}
    (covered : covers ranges point = true) :
    ∃ range ∈ ranges, range.1 ≤ point ∧ point ≤ range.2 := by
  induction ranges with
  | nil => simp [covers] at covered
  | cons range ranges ih =>
      obtain ⟨first, last⟩ := range
      rw [covers] at covered
      split at covered
      · simp at covered
      · split at covered
        · exact ⟨(first, last), by simp, by omega, by assumption⟩
        · obtain ⟨range, member, bounds⟩ := ih covered
          exact ⟨range, by simp [member], bounds⟩

end RecordFilter.Text
