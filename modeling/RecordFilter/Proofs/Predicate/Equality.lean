import Mathlib.Data.List.Forall2
import RecordFilter.Predicate.Scan
import RecordFilter.Proofs.Predicate.Traversal
import RecordFilter.Proofs.Value.Consistency

/-!
# Equality of trees

Equality of values is the identity but for floating-point numbers, of which those at one place
of the line are equal and those that are not numbers equal nothing, themselves included. Trees
are equal if they have one outline and their leaves are equal in turn. So equality is symmetric
and transitive, and a tree equals itself if no value in its leaves is not a number. Comparing
the pending pairs of nodes in a loop comes to the same as the recursion over both trees.
-/

set_option autoImplicit false

namespace RecordFilter

/-! ## Lists in turn -/

section Lists

variable {α : Type} {R : α → α → Prop}

theorem forall₂_append_iff {left others right more : List α}
    (same : left.length = others.length) :
    List.Forall₂ R (left ++ right) (others ++ more) ↔
      List.Forall₂ R left others ∧ List.Forall₂ R right more := by
  induction left generalizing others with
  | nil =>
      obtain rfl := List.eq_nil_of_length_eq_zero same.symm
      simp
  | cons first left ih =>
      cases others with
      | nil => cases same
      | cons other others =>
          have shorter : left.length = others.length := Nat.succ.inj same
          simp only [List.cons_append, List.forall₂_cons, ih shorter, and_assoc]

theorem forall₂_symm (symm : ∀ a b, R a b → R b a) {left right : List α}
    (related : List.Forall₂ R left right) : List.Forall₂ R right left :=
  (related.imp symm).flip

theorem forall₂_trans (trans : ∀ a b c, R a b → R b c → R a c) {left middle right : List α}
    (first : List.Forall₂ R left middle) (second : List.Forall₂ R middle right) :
    List.Forall₂ R left right := by
  induction first generalizing right with
  | nil => exact second
  | cons head _ ih =>
      cases second with
      | cons next later => exact .cons (trans _ _ _ head next) (ih later)

theorem isEqv_iff_forall₂ {test : α → α → Bool} {left right : List α} :
    left.isEqv right test = true ↔ List.Forall₂ (fun a b => test a b = true) left right := by
  induction left generalizing right with
  | nil => cases right <;> simp [List.isEqv]
  | cons first left ih => cases right <;> simp [List.isEqv, ih]

end Lists

/-! ## Values -/

namespace Value

/-- Equal values are one and the same, or floating-point numbers at one place of the line. -/
inductive Equals : Value → Value → Prop where
  | exact {v : Value} : v.isFloat = false → Equals v v
  | number {x y : Binary64} :
      x.isNaN = false → y.isNaN = false → x.rank = y.rank → Equals (.float64 x) (.float64 y)

theorem equal_float_iff {x y : Binary64} :
    (float64 x).equal (float64 y) = true ↔
      x.isNaN = false ∧ y.isNaN = false ∧ x.rank = y.rank := by
  rw [equal, decide_eq_true_iff, Binary64.order]
  cases x.isNaN <;> cases y.isNaN <;> simp

theorem equal_iff {v w : Value} : v.equal w = true ↔ v.Equals w := by
  constructor
  · intro same
    unfold equal at same
    split at same
    next x y =>
      obtain ⟨first, second, places⟩ := equal_float_iff.mp same
      exact .number first second places
    next exact =>
      obtain rfl := of_decide_eq_true same
      cases v with
      | float64 x => exact absurd rfl (exact x x rfl)
      | _ => exact .exact rfl
  · rintro (exact | ⟨first, second, places⟩)
    · cases v with
      | float64 x => cases exact
      | _ => simp [equal]
    · exact equal_float_iff.mpr ⟨first, second, places⟩

variable {u v w : Value}

theorem Equals.symm (same : v.Equals w) : w.Equals v := by
  cases same with
  | exact exact => exact .exact exact
  | number first second places => exact .number second first places.symm

theorem Equals.trans (first : u.Equals v) (second : v.Equals w) : u.Equals w := by
  cases first with
  | exact => exact second
  | number left _ places =>
      cases second with
      | exact exact => cases exact
      | number _ right others => exact .number left right (places.trans others)

theorem equals_self_iff : v.Equals v ↔ v.isNaN = false := by
  constructor
  · rintro (exact | ⟨number, _, _⟩)
    · cases v with
      | float64 => cases exact
      | _ => rfl
    · exact number
  · intro number
    cases v with
    | float64 x => exact .number number number rfl
    | _ => exact .exact rfl

end Value

/-! ## Leaves -/

namespace Leaf

variable {a b c : Leaf}

theorem equal_iff :
    a.equal b = true ↔ a.target = b.target ∧ a.comparison = b.comparison ∧
      a.property = b.property ∧ List.Forall₂ Value.Equals (a.value :: a.values)
        (b.value :: b.values) := by
  simp only [equal, Bool.and_eq_true, decide_eq_true_eq, isEqv_iff_forall₂, Value.equal_iff,
    List.forall₂_cons, and_assoc]

theorem equal_symm (same : a.equal b = true) : b.equal a = true := by
  obtain ⟨target, comparison, property, values⟩ := equal_iff.mp same
  exact equal_iff.mpr ⟨target.symm, comparison.symm, property.symm,
    forall₂_symm (fun _ _ => Value.Equals.symm) values⟩

theorem equal_trans (first : a.equal b = true) (second : b.equal c = true) :
    a.equal c = true := by
  obtain ⟨target, comparison, property, values⟩ := equal_iff.mp first
  obtain ⟨nextTarget, nextComparison, nextProperty, nextValues⟩ := equal_iff.mp second
  exact equal_iff.mpr ⟨target.trans nextTarget, comparison.trans nextComparison,
    property.trans nextProperty,
    forall₂_trans (fun _ _ _ first second => first.trans second) values nextValues⟩

theorem equal_self_iff : a.equal a = true ↔ ∀ v ∈ a.value :: a.values, v.isNaN = false := by
  simp only [equal_iff, true_and, List.forall₂_same, Value.equals_self_iff]

end Leaf

/-! ## Trees -/

namespace Predicate

/-- The tree with one and the same leaf in the place of every leaf. What is left of it are its
shape, its flags and its connectives. -/
def outline : Predicate → Predicate :=
  fold (fun negated _ => (constant true).withNegation negated) group

@[simp] theorem outline_leaf (negated : Bool) (l : Leaf) :
    (leaf negated l).outline = (constant true).withNegation negated := by
  simp [outline]

@[simp] theorem outline_group (negated : Bool) (connective : Connective)
    (children : List Predicate) :
    (group negated connective children).outline =
      group negated connective (children.map outline) := by
  simp [outline]

theorem length_leaves_outline (p : Predicate) : p.outline.leaves.length = p.leaves.length := by
  induction p using Predicate.induction with
  | leafCase negated l => simp [leaves_withNegation, constant, ofLeaf]
  | groupCase negated connective children ih =>
      simp only [outline_group, leaves_group, List.flatMap_map, List.length_flatMap]
      rw [List.map_congr_left ih]

/-- Two trees with one outline whose leaves are equal in turn. -/
structure Agrees (p q : Predicate) : Prop where
  outlines : p.outline = q.outline
  leaves : List.Forall₂ (fun a b => a.equal b = true) p.leaves q.leaves

variable {p q r : Predicate} {m n : Bool} {c d : Connective} {a b : Leaf}
  {children others : List Predicate}

theorem Agrees.symm (agrees : p.Agrees q) : q.Agrees p :=
  ⟨agrees.outlines.symm, forall₂_symm (fun _ _ => Leaf.equal_symm) agrees.leaves⟩

theorem Agrees.trans (first : p.Agrees q) (second : q.Agrees r) : p.Agrees r := by
  have chained : ∀ a b c : Leaf, a.equal b = true → b.equal c = true → a.equal c = true :=
    fun _ _ _ => Leaf.equal_trans
  exact ⟨first.outlines.trans second.outlines,
    forall₂_trans chained first.leaves second.leaves⟩

theorem agrees_self_iff :
    p.Agrees p ↔ ∀ l ∈ p.leaves, ∀ v ∈ l.value :: l.values, v.isNaN = false := by
  simp only [← Leaf.equal_self_iff]
  exact ⟨fun agrees => List.forall₂_same.mp agrees.leaves,
    fun leaves => ⟨rfl, List.forall₂_same.mpr leaves⟩⟩

theorem agrees_leaf_iff : (leaf m a).Agrees (leaf n b) ↔ m = n ∧ a.equal b = true := by
  constructor
  · rintro ⟨outlines, leaves⟩
    simpa [constant, ofLeaf, withNegation] using And.intro outlines leaves
  · rintro ⟨rfl, same⟩
    exact ⟨by simp, by simpa using same⟩

theorem not_agrees_leaf_group : ¬ (leaf m a).Agrees (group n d others) := by
  rintro ⟨outlines, _⟩
  rw [outline_leaf, outline_group] at outlines
  cases outlines

theorem not_agrees_group_leaf : ¬ (group m c children).Agrees (leaf n b) :=
  fun agrees => not_agrees_leaf_group agrees.symm

/-- Trees of one outline have equally many leaves, so the leaves below two groups agree in turn
only if those of their members do. -/
theorem agrees_members_iff :
    (children.map outline = others.map outline ∧
        List.Forall₂ (fun a b => a.equal b = true) (children.flatMap leaves)
          (others.flatMap leaves)) ↔
      List.Forall₂ Agrees children others := by
  induction children generalizing others with
  | nil =>
      cases others with
      | nil => simp
      | cons => exact iff_of_false (by simp) nofun
  | cons child children ih =>
      cases others with
      | nil => exact iff_of_false (by simp) nofun
      | cons other others =>
          simp only [List.map_cons, List.cons.injEq, List.flatMap_cons, List.forall₂_cons, ← ih]
          constructor
          · rintro ⟨⟨outline, outlines⟩, all⟩
            -- one outline, one number of leaves: the leaves are cut at the same place
            have same : child.leaves.length = other.leaves.length := by
              rw [← length_leaves_outline, outline, length_leaves_outline]
            obtain ⟨leaves, later⟩ := (forall₂_append_iff same).mp all
            exact ⟨⟨outline, leaves⟩, outlines, later⟩
          · rintro ⟨⟨outline, leaves⟩, outlines, later⟩
            exact ⟨⟨outline, outlines⟩, List.rel_append leaves later⟩

theorem agrees_group_iff :
    (group m c children).Agrees (group n d others) ↔
      m = n ∧ c = d ∧ List.Forall₂ Agrees children others := by
  rw [← agrees_members_iff]
  constructor
  · rintro ⟨outlines, leaves⟩
    rw [outline_group, outline_group] at outlines
    obtain ⟨flags, connectives, members⟩ := group.inj outlines
    rw [leaves_group, leaves_group] at leaves
    exact ⟨flags, connectives, members, leaves⟩
  · rintro ⟨rfl, rfl, members, leaves⟩
    exact ⟨by rw [outline_group, outline_group, members], by simpa using leaves⟩

theorem equal_iff_agrees : p.equal q = true ↔ p.Agrees q := by
  have all {children others : List Predicate}
      (each : ∀ child ∈ children, ∀ other : Predicate,
        child.equal other = true ↔ child.Agrees other) :
      equalAll children others = true ↔ List.Forall₂ Agrees children others := by
    induction children generalizing others with
    | nil => cases others <;> simp [equalAll]
    | cons child children ih =>
        obtain ⟨first, later⟩ := List.forall_mem_cons.mp each
        cases others with
        | nil => simp [equalAll]
        | cons other others => simp [equalAll, first, ih later]
  induction p using Predicate.induction generalizing q with
  | leafCase m a =>
      cases q with
      | leaf n b => simp [equal, agrees_leaf_iff]
      | group n d others => simp [equal, not_agrees_leaf_group]
  | groupCase m c children ih =>
      cases q with
      | leaf n b => simp [equal, not_agrees_group_leaf]
      | group n d others =>
          simp [equal, agrees_group_iff, all fun child member _ => ih child member, and_assoc]

/-! ## Pairs in a loop -/

theorem agrees_group_iff_zip :
    (group m c children).Agrees (group n d others) ↔
      m = n ∧ (c = d ∧ children.length = others.length) ∧
        ∀ pair ∈ children.zip others, pair.1.Agrees pair.2 := by
  rw [agrees_group_iff, List.forall₂_iff_zip, and_assoc]
  simp only [Prod.forall]

/-- The loop over the pending pairs ends with yes if and only if the trees of each agree. Where
two groups are of one width, their members are paired without any left over. -/
theorem equalPairs_iff {pending : List (Predicate × Predicate)} :
    equalPairs pending = true ↔ ∀ pair ∈ pending, pair.1.Agrees pair.2 := by
  fun_induction equalPairs pending with
  | case1 => simp
  | case2 m a n b pending flags => simp [agrees_leaf_iff, flags]
  | case3 m a n b pending flags same ih =>
      simp [agrees_leaf_iff, not_not.mp flags, same, ih]
  | case4 m a n b pending flags different => simp [agrees_leaf_iff, different]
  | case5 m c children n d others pending flags => simp [agrees_group_iff_zip, flags]
  | case6 m c children n d others pending flags same ih =>
      rw [ih, List.forall_mem_append, List.forall_mem_cons, agrees_group_iff_zip,
        and_iff_right (not_not.mp flags), and_iff_right same]
      simp only [List.mem_reverse]
  | case7 m c children n d others pending flags different =>
      simp [agrees_group_iff_zip, different]
  | case8 => simp [not_agrees_leaf_group]
  | case9 => simp [not_agrees_group_leaf]

theorem scannedEqual_iff_agrees : p.scannedEqual q = true ↔ p.Agrees q := by
  rw [scannedEqual, equalPairs_iff, List.forall_mem_singleton]

/-- Comparing in a loop and comparing by recursion have one answer. -/
theorem scannedEqual_eq (p q : Predicate) : p.scannedEqual q = p.equal q := by
  rw [Bool.eq_iff_iff, scannedEqual_iff_agrees, equal_iff_agrees]

end Predicate

end RecordFilter
