import RecordFilter.Proofs.Predicate.Pairing
import Mathlib.Data.List.Forall2

/-!
# Trees of the same shape

Two trees have the same shape if they differ in nothing but the values that their leaves
compare with. Inverting a tree and bringing it to normal form look at no value, so they
keep trees of the same shape together.
-/

set_option autoImplicit false

namespace RecordFilter

/-- Leaves that can be told apart by what they compare with only: the literal, or as many
candidates. Constants compare with nothing and cannot be told apart. -/
structure Leaf.SameForm (first second : Leaf) : Prop where
  target : first.target = second.target
  comparison : first.comparison = second.comparison
  property : first.property = second.property
  candidates : first.comparison = .oneOf → first.values.length = second.values.length
  constant : first.target = .constant → first = second

namespace Leaf

theorem SameForm.refl (leaf : Leaf) : leaf.SameForm leaf :=
  ⟨rfl, rfl, rfl, fun _ => rfl, fun _ => rfl⟩

theorem sameForm_compare {target : Target} (comparing : target ≠ .constant)
    (comparison : Comparison) (property : Option String) (v w : Value) :
    (compare target comparison property v).SameForm (compare target comparison property w) :=
  ⟨rfl, rfl, rfl, fun _ => rfl, fun constant => absurd constant comparing⟩

theorem sameForm_among {target : Target} (comparing : target ≠ .constant)
    (property : Option String) {values others : List Value}
    (equallyMany : values.length = others.length) :
    (among target property values).SameForm (among target property others) :=
  ⟨rfl, rfl, rfl, fun _ => equallyMany, fun constant => absurd constant comparing⟩

end Leaf

namespace Predicate

inductive SameShape : Predicate → Predicate → Prop where
  | leaf {negated : Bool} {first second : Leaf} : first.SameForm second →
      SameShape (.leaf negated first) (.leaf negated second)
  | group {negated : Bool} {connective : Connective} {children others : List Predicate} :
      List.Forall₂ SameShape children others →
      SameShape (.group negated connective children) (.group negated connective others)

variable {first second : Predicate} {negated : Bool} {connective : Connective}

theorem SameShape.pair {left right otherLeft otherRight : Predicate}
    (lefts : left.SameShape otherLeft) (rights : right.SameShape otherRight) :
    (Predicate.group negated connective [left, right]).SameShape
      (.group negated connective [otherLeft, otherRight]) :=
  .group (.cons lefts (.cons rights .nil))

theorem SameShape.withNegation (shape : first.SameShape second) (flag : Bool) :
    (first.withNegation flag).SameShape (second.withNegation flag) := by
  cases shape with
  | leaf form => exact .leaf form
  | group members => exact .group members

theorem SameShape.chainOnto {joined otherJoined next otherNext : Predicate}
    {rest otherRest : List Predicate} (start : joined.SameShape otherJoined)
    (head : next.SameShape otherNext) (members : List.Forall₂ SameShape rest otherRest) :
    (Predicate.chainOnto negated connective joined (next :: rest)).SameShape
      (Predicate.chainOnto negated connective otherJoined (otherNext :: otherRest)) := by
  induction members generalizing joined otherJoined next otherNext with
  | nil => exact .pair start head
  | cons following _ ih => exact ih (.pair start head) following

theorem SameShape.chain {children others : List Predicate}
    (members : List.Forall₂ SameShape children others) :
    (Predicate.chain negated connective children).SameShape
      (Predicate.chain negated connective others) := by
  cases members with
  | nil => exact .group .nil
  | cons first members =>
      cases members with
      | nil => exact .group (.cons first .nil)
      | cons second members =>
          cases members with
          | nil => exact .pair first second
          | cons third members => exact .chainOnto first second (.cons third members)

theorem SameShape.normalized (shape : first.SameShape second) :
    first.normalized.SameShape second.normalized := by
  induction first using Predicate.induction generalizing second with
  | leafCase negated l =>
      cases shape with
      | leaf form =>
          rw [normalized_leaf, normalized_leaf]
          exact .leaf form
  | groupCase negated connective children ih =>
      cases shape with
      | @group _ _ _ others members =>
          rw [normalized_group, normalized_group]
          apply SameShape.chain
          rw [List.forall₂_map_left_iff, List.forall₂_map_right_iff]
          have each := (List.forall₂_and_left _ _).mpr ⟨ih, members⟩
          exact each.imp fun _ _ both => both.1 both.2

end Predicate

end RecordFilter
