import Mathlib.Order.Compare
import RecordFilter.Proofs.Value.Comparable
import RecordFilter.Proofs.Value.Rounding

/-!
# Consistency of the order

Every comparison is made on one of four scales: truth values, strings, the integers that
values stand for, or the floating-point numbers nearest to numeric values. On one scale the
order is linear. Three values are compared on two scales if one of them is a floating-point
number and the others are integers; rounding keeps the order of the two, but it may take
them to one number, and where that is the third value the three comparisons disagree.
-/

set_option autoImplicit false

namespace RecordFilter

/-! ## Three orders -/

/-- The order of the first of three things and the last follows from the orders in between:
what is not above a thing is not above those that thing is not above, and it equals them only
if all three are equal. -/
def Chains (first second whole : Ordering) : Prop :=
  first ≠ .gt → second ≠ .gt → whole ≠ .gt ∧ (whole = .eq → first = .eq ∧ second = .eq)

theorem chains_compare {α : Type} [Ord α] [Std.TransOrd α] [Std.LawfulEqOrd α] (a b c : α) :
    Chains (compare a b) (compare b c) (compare a c) := by
  intro first second
  have whole : compare a c ≠ .gt := by
    apply Ordering.isLE_iff_ne_gt.mp
    exact Std.TransOrd.isLE_trans (Ordering.isLE_iff_ne_gt.mpr first)
      (Ordering.isLE_iff_ne_gt.mpr second)
  refine ⟨whole, fun equal => ?_⟩
  obtain rfl := Std.LawfulEqOrd.compare_eq_iff_eq.mp equal
  rw [Std.OrientedOrd.eq_swap (a := b)] at second ⊢
  cases ordered : compare a b <;> simp_all

namespace Value

/-! ## Scales -/

def isFloat : Value → Bool
  | float64 _ => true
  | _ => false

/-- The place of a numeric value among the floating-point numbers. -/
def rank? (v : Value) : Option Int :=
  v.number?.bind fun x => if x.isNaN then none else some x.rank

/-- The order of two values by the scale on which they are compared. -/
inductive Compares : Value → Value → Ordering → Prop where
  | boolean (a b : Bool) : Compares (.boolean a) (.boolean b) (compare a b)
  | string (a b : String) : Compares (.string a) (.string b) (compare a b)
  | instant {v w : Value} {m n : Int} :
      v.instant? = some m → w.instant? = some n → Compares v w (compare m n)
  | number {v w : Value} {x y : Int} :
      v.isFloat = true ∨ w.isFloat = true → v.rank? = some x → w.rank? = some y →
      Compares v w (compare x y)

theorem order_float64_right (v : Value) (y : Binary64) :
    v.order (float64 y) = v.number?.bind fun x => x.order y := by
  cases v <;> rfl

theorem order_number {v w : Value} (mixed : v.isFloat = true ∨ w.isFloat = true) :
    v.order w = v.rank?.bind fun x => w.rank?.map fun y => compare x y := by
  have scale : ∀ left right : Option Binary64,
      (left.bind fun x => right.bind fun y => x.order y) =
        (left.bind fun x => if x.isNaN then none else some x.rank).bind fun x =>
          (right.bind fun y => if y.isNaN then none else some y.rank).map fun y =>
            compare x y := by
    intro left right
    cases left with
    | none => rfl
    | some x =>
        cases right with
        | none =>
            simp only [Option.bind_some, Option.bind_none, Option.map_none]
            cases x.isNaN <;> rfl
        | some y =>
            simp only [Option.bind_some, Binary64.order]
            cases x.isNaN <;> cases y.isNaN <;> rfl
  unfold rank?
  rw [← scale]
  rcases mixed with left | right
  · cases v <;> cases left
    rw [order_float64]
    rfl
  · cases w <;> cases right
    rw [order_float64_right]
    rfl

theorem order_eq_some_iff {v w : Value} {order : Ordering} :
    v.order w = some order ↔ v.Compares w order := by
  constructor
  · intro compared
    by_cases mixed : v.isFloat = true ∨ w.isFloat = true
    · rw [order_number mixed] at compared
      obtain ⟨x, left, rest⟩ := Option.bind_eq_some_iff.mp compared
      obtain ⟨y, right, rfl⟩ := Option.map_eq_some_iff.mp rest
      exact .number mixed left right
    · cases v <;> cases w <;> first
        | (cases compared; exact .boolean _ _)
        | (cases compared; exact .string _ _)
        | (cases compared; exact .instant rfl rfl)
        | cases compared
        | exact absurd (by simp [isFloat]) mixed
  · intro compared
    cases compared with
    | boolean | string => rfl
    | instant left right => exact order_of_instant? left right
    | number mixed left right =>
        rw [order_number mixed, left, right]
        rfl

theorem Compares.swap {v w : Value} {order : Ordering} (compared : v.Compares w order) :
    w.Compares v order.swap := by
  cases compared with
  | boolean a b =>
      rw [← Std.OrientedOrd.eq_swap]
      exact .boolean b a
  | string a b =>
      rw [← Std.OrientedOrd.eq_swap]
      exact .string b a
  | instant left right =>
      rw [← Std.OrientedOrd.eq_swap]
      exact .instant right left
  | number mixed left right =>
      rw [← Std.OrientedOrd.eq_swap]
      exact .number mixed.symm right left

theorem Compares.of_boolean {p : Bool} {w : Value} {order : Ordering}
    (compared : Compares (.boolean p) w order) : ∃ q, w = .boolean q ∧ order = compare p q := by
  cases compared with
  | boolean _ q => exact ⟨q, rfl, rfl⟩
  | instant instant => cases instant
  | number _ ranked => cases ranked

theorem Compares.of_string {p : String} {w : Value} {order : Ordering}
    (compared : Compares (.string p) w order) : ∃ q, w = .string q ∧ order = compare p q := by
  cases compared with
  | string _ q => exact ⟨q, rfl, rfl⟩
  | instant instant => cases instant
  | number _ ranked => cases ranked

theorem order_swap (v w : Value) : w.order v = (v.order w).map .swap := by
  apply Option.ext
  intro order
  rw [Option.map_eq_some_iff, order_eq_some_iff]
  constructor
  · intro compared
    exact ⟨order.swap, order_eq_some_iff.mpr compared.swap, Ordering.swap_swap⟩
  · rintro ⟨other, compared, rfl⟩
    exact (order_eq_some_iff.mp compared).swap

/-! ## Two scales -/

theorem isFloat_eq_false {v : Value} {n : Int} (instant : v.instant? = some n) :
    v.isFloat = false := by
  cases v <;> first
    | rfl
    | cases instant

/-- A value that has a place on both scales is an integer, and rounding it takes it from one
to the other. -/
theorem integer?_of_rank? {v : Value} {n x : Int} (instant : v.instant? = some n)
    (ranked : v.rank? = some x) : v.integer? = some n ∧ x = (Binary64.ofInt n).rank := by
  have integer : v.integer? = some n := by
    cases v <;> first
      | exact instant
      | cases ranked
  rw [rank?, number?_of_integer? integer, Option.bind_some, Binary64.isNaN_ofInt] at ranked
  exact ⟨integer, (Option.some.inj ranked).symm⟩

/-- A floating-point number that two integers are rounded to, the lower one named first. -/
def Blurs (v low high : Value) : Prop :=
  v.isFloat = true ∧ (∃ m n, low.integer? = some m ∧ high.integer? = some n ∧ m < n) ∧
    v.order low = some .eq ∧ v.order high = some .eq

theorem Blurs.isFloat {v low high : Value} (blurs : v.Blurs low high) :
    v.isFloat = true ∧ low.isFloat = false ∧ high.isFloat = false := by
  obtain ⟨floating, ⟨m, n, lowInteger, highInteger, _⟩, _⟩ := blurs
  exact ⟨floating, isFloat_eq_false (instant?_of_integer? lowInteger),
    isFloat_eq_false (instant?_of_integer? highInteger)⟩

theorem blurs_iff {v low high : Value} {x m n : Int} (floating : v.isFloat = true)
    (ranked : v.rank? = some x) (lowInteger : low.integer? = some m)
    (highInteger : high.integer? = some n) :
    v.Blurs low high ↔
      m < n ∧ (Binary64.ofInt m).rank = x ∧ (Binary64.ofInt n).rank = x := by
  have equal : ∀ {w : Value} {k : Int}, w.integer? = some k →
      (v.order w = some .eq ↔ (Binary64.ofInt k).rank = x) := by
    intro w k integer
    have place : w.rank? = some (Binary64.ofInt k).rank := by
      rw [rank?, number?_of_integer? integer, Option.bind_some, Binary64.isNaN_ofInt]
      rfl
    rw [order_number (.inl floating), ranked, place, Option.bind_some, Option.map_some,
      Option.some_inj, compare_eq_iff_eq]
    exact eq_comm
  rw [Blurs, equal lowInteger, equal highInteger, lowInteger, highInteger]
  simp [floating]

/-- One of three values blurs the two others, the lower one of which comes next in the round
of the three. -/
def Blurred (a b c : Value) : Prop :=
  a.Blurs b c ∨ b.Blurs c a ∨ c.Blurs a b

section Three

variable {a b c : Value}

theorem blurred_rotate : Blurred b c a ↔ Blurred a b c :=
  or_rotate.symm

theorem not_blurred_of_exact (exact : a.isFloat = false ∧ b.isFloat = false ∧ c.isFloat = false) :
    ¬ Blurred a b c := by
  rintro (blurs | blurs | blurs) <;> simp_all [blurs.isFloat]

theorem not_blurred_of_rounded (first : a.isFloat = true ∨ b.isFloat = true)
    (second : b.isFloat = true ∨ c.isFloat = true) (outer : a.isFloat = true ∨ c.isFloat = true) :
    ¬ Blurred a b c := by
  rintro (blurs | blurs | blurs) <;>
  · have floats := blurs.isFloat
    simp_all

theorem blurred_iff {x m n : Int} (floating : a.isFloat = true) (ranked : a.rank? = some x)
    (second : b.integer? = some m) (third : c.integer? = some n) :
    Blurred a b c ↔ m < n ∧ (Binary64.ofInt m).rank = x ∧ (Binary64.ofInt n).rank = x := by
  have other : ¬ (b.Blurs c a ∨ c.Blurs a b) := by
    rintro (blurs | blurs)
    · have exact := blurs.isFloat.2.2
      simp_all
    · have exact := blurs.isFloat.2.1
      simp_all
  rw [Blurred, or_iff_left other, blurs_iff floating ranked second third]

/-! ## Three comparisons -/

theorem chains_compare_iff {p p' q q' r r' : Int} :
    Chains (compare p p') (compare q q') (compare r r') ↔
      (p ≤ p' → q ≤ q' → r ≤ r' ∧ (r = r' → p = p' ∧ q = q')) := by
  rw [Chains, compare_le_iff_le, compare_le_iff_le, compare_le_iff_le, compare_eq_iff_eq,
    compare_eq_iff_eq, compare_eq_iff_eq]

variable {m n k x y z : Int}

theorem chains_float_first (floating : a.isFloat = true) (firstRank : a.rank? = some x)
    (second : b.instant? = some n) (secondRank : b.rank? = some y)
    (third : c.instant? = some k) (thirdRank : c.rank? = some z) :
    Chains (compare x y) (compare n k) (compare x z) ↔ ¬ Blurred a b c := by
  obtain ⟨secondInteger, rfl⟩ := integer?_of_rank? second secondRank
  obtain ⟨thirdInteger, rfl⟩ := integer?_of_rank? third thirdRank
  have rising := Binary64.rank_ofInt_mono (m := n) (n := k)
  rw [blurred_iff floating firstRank secondInteger thirdInteger, chains_compare_iff]
  omega

theorem chains_float_middle (first : a.instant? = some m) (firstRank : a.rank? = some x)
    (floating : b.isFloat = true) (secondRank : b.rank? = some y)
    (third : c.instant? = some k) (thirdRank : c.rank? = some z) :
    Chains (compare x y) (compare y z) (compare m k) ↔ ¬ Blurred a b c := by
  obtain ⟨firstInteger, rfl⟩ := integer?_of_rank? first firstRank
  obtain ⟨thirdInteger, rfl⟩ := integer?_of_rank? third thirdRank
  have rising := Binary64.rank_ofInt_mono (m := k) (n := m)
  rw [← blurred_rotate, blurred_iff floating secondRank thirdInteger firstInteger,
    chains_compare_iff]
  omega

theorem chains_float_last (first : a.instant? = some m) (firstRank : a.rank? = some x)
    (second : b.instant? = some n) (secondRank : b.rank? = some y)
    (floating : c.isFloat = true) (thirdRank : c.rank? = some z) :
    Chains (compare m n) (compare y z) (compare x z) ↔ ¬ Blurred a b c := by
  obtain ⟨firstInteger, rfl⟩ := integer?_of_rank? first firstRank
  obtain ⟨secondInteger, rfl⟩ := integer?_of_rank? second secondRank
  have rising := Binary64.rank_ofInt_mono (m := m) (n := n)
  rw [blurred_rotate.symm.trans blurred_rotate.symm,
    blurred_iff floating thirdRank firstInteger secondInteger, chains_compare_iff]
  omega

/-- Behind a comparison of integers: they are compared with an integer, or with a number. -/
theorem chains_of_instant {second whole : Ordering}
    (firstInstant : a.instant? = some m) (secondInstant : b.instant? = some n)
    (right : b.Compares c second) (outer : a.Compares c whole) :
    Chains (compare m n) second whole ↔ ¬ Blurred a b c := by
  cases right with
  | boolean | string => cases secondInstant
  | @instant _ _ n' k again thirdInstant =>
      cases secondInstant.symm.trans again
      have exact := And.intro (isFloat_eq_false firstInstant)
        (And.intro (isFloat_eq_false secondInstant) (isFloat_eq_false thirdInstant))
      cases outer with
      | boolean | string => cases firstInstant
      | @instant _ _ m' k' same sameThird =>
          cases firstInstant.symm.trans same
          cases thirdInstant.symm.trans sameThird
          exact iff_of_true (chains_compare m n k) (not_blurred_of_exact exact)
      | number mixed => simp [exact] at mixed
  | @number _ _ y z mixed secondRank thirdRank =>
      have floating : c.isFloat = true := by simpa [isFloat_eq_false secondInstant] using mixed
      cases outer with
      | boolean | string => cases firstInstant
      | instant _ thirdInstant =>
          rw [isFloat_eq_false thirdInstant] at floating
          cases floating
      | @number _ _ x z' _ firstRank sameRank =>
          cases thirdRank.symm.trans sameRank
          exact chains_float_last firstInstant firstRank secondInstant secondRank floating thirdRank

/-- Behind a comparison of numbers: one of the two is a floating-point number. -/
theorem chains_of_number {second whole : Ordering}
    (mixed : a.isFloat = true ∨ b.isFloat = true) (firstRank : a.rank? = some x)
    (secondRank : b.rank? = some y) (right : b.Compares c second) (outer : a.Compares c whole) :
    Chains (compare x y) second whole ↔ ¬ Blurred a b c := by
  cases right with
  | boolean | string => cases secondRank
  | @instant _ _ n k secondInstant thirdInstant =>
      have floating : a.isFloat = true := by simpa [isFloat_eq_false secondInstant] using mixed
      cases outer with
      | boolean | string => cases firstRank
      | instant firstInstant =>
          rw [isFloat_eq_false firstInstant] at floating
          cases floating
      | @number _ _ x' z _ sameRank thirdRank =>
          cases firstRank.symm.trans sameRank
          exact chains_float_first floating firstRank secondInstant secondRank thirdInstant
            thirdRank
  | @number _ _ y' z rightMixed sameSecond thirdRank =>
      cases secondRank.symm.trans sameSecond
      cases outer with
      | boolean | string => cases firstRank
      | @instant _ _ m k firstInstant thirdInstant =>
          have floating : b.isFloat = true := by simpa [isFloat_eq_false firstInstant] using mixed
          exact chains_float_middle firstInstant firstRank floating secondRank thirdInstant
            thirdRank
      | @number _ _ x' z' outerMixed sameFirst sameThird =>
          cases firstRank.symm.trans sameFirst
          cases thirdRank.symm.trans sameThird
          exact iff_of_true (chains_compare x y z)
            (not_blurred_of_rounded mixed rightMixed outerMixed)

theorem chains_iff {first second whole : Ordering} (left : a.Compares b first)
    (right : b.Compares c second) (outer : a.Compares c whole) :
    Chains first second whole ↔ ¬ Blurred a b c := by
  cases left with
  | boolean p q =>
      obtain ⟨r, rfl, rfl⟩ := right.of_boolean
      obtain ⟨_, same, rfl⟩ := outer.of_boolean
      cases same
      exact iff_of_true (chains_compare p q r) (not_blurred_of_exact ⟨rfl, rfl, rfl⟩)
  | string p q =>
      obtain ⟨r, rfl, rfl⟩ := right.of_string
      obtain ⟨_, same, rfl⟩ := outer.of_string
      cases same
      exact iff_of_true (chains_compare p q r) (not_blurred_of_exact ⟨rfl, rfl, rfl⟩)
  | instant firstInstant secondInstant =>
      exact chains_of_instant firstInstant secondInstant right outer
  | number mixed firstRank secondRank =>
      exact chains_of_number mixed firstRank secondRank right outer

end Three

/-- The order of two values is the opposite of theirs the other way round. The orders of three
values that compare follow from one another, except exactly where one of them is a
floating-point number to which the two others, different integers, are rounded. -/
theorem order_consistent (a b c : Value) :
    b.order a = (a.order b).map .swap ∧
      ∀ first second whole, a.order b = some first → b.order c = some second →
        a.order c = some whole → (Chains first second whole ↔ ¬ Blurred a b c) := by
  refine ⟨order_swap a b, fun first second whole left right outer => ?_⟩
  exact chains_iff (order_eq_some_iff.mp left) (order_eq_some_iff.mp right)
    (order_eq_some_iff.mp outer)

/-- The integer above the number and the one equal to it, in either order. -/
theorem order_consistent_rounded :
    let above := int64 9007199254740993
    let number := float64 (.ofInt 9007199254740992)
    let equal := uint64 9007199254740992
    number.order above = some .eq ∧ Blurred above number equal ∧ ¬ Blurred equal number above := by
  intro above number equal
  have falling := order_consistent above number equal
  have rising := order_consistent equal number above
  have up := rising.2 .eq .eq .lt (by decide +kernel) (by decide +kernel) (by decide +kernel)
  have down := falling.2 .eq .eq .gt (by decide +kernel) (by decide +kernel) (by decide +kernel)
  refine ⟨falling.1.trans (by decide +kernel), not_not.mp fun clear => ?_,
    up.mp fun _ _ => ⟨nofun, nofun⟩⟩
  exact (down.mpr clear nofun nofun).1 rfl

/-- Two integers are equal to the number between them and not to one another: the first is not
above the number, nor the number above the last, yet the first is above the last. -/
theorem order_blurred :
    let first := int64 9007199254740993
    let number := float64 (.ofInt 9007199254740992)
    let last := int64 9007199254740992
    first.order number = some .eq ∧ number.order last = some .eq ∧
      first.order last = some .gt := by
  decide +kernel

end Value

end RecordFilter
