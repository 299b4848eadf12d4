import RecordFilter.Predicate.Leaf

/-!
# Predicates

Trees of leaves and groups, each node with a flag that inverts it. Functions that follow
the shape of a tree are instances of `Predicate.fold`, whose equations are stated once.
-/

set_option autoImplicit false

namespace RecordFilter

/-- A tree of comparisons. The flag of a node inverts its truth. -/
inductive Predicate where
  | leaf (negated : Bool) (leaf : Leaf)
  | group (negated : Bool) (connective : Connective) (children : List Predicate)

namespace Predicate

/-! ## Parts -/

def isNegated : Predicate → Bool
  | leaf negated _ => negated
  | group negated _ _ => negated

def children : Predicate → List Predicate
  | leaf _ _ => []
  | group _ _ children => children

def leaf? : Predicate → Option Leaf
  | leaf _ l => some l
  | group _ _ _ => none

def isLeaf (p : Predicate) : Bool :=
  p.leaf?.isSome

/-! ## Negation -/

/-- The predicate inverted once more if the flag says so. -/
def withNegation (flag : Bool) : Predicate → Predicate
  | leaf negated l => .leaf (negated ^^ flag) l
  | group negated connective children => .group (negated ^^ flag) connective children

def negate (p : Predicate) : Predicate :=
  p.withNegation true

/-! ## Construction -/

def ofLeaf (l : Leaf) : Predicate :=
  leaf false l

def constant (truth : Bool) : Predicate :=
  ofLeaf (.compare .constant .equal none (.boolean truth))

def column (name : String) (comparison : Comparison) (value : Value) : Predicate :=
  ofLeaf (.compare .column comparison (some name) value)

def columnAmong (name : String) (values : List Value) : Predicate :=
  ofLeaf (.among .column (some name) values)

def all (children : List Predicate) : Predicate :=
  .group false .and children

def any (children : List Predicate) : Predicate :=
  .group false .or children

/-! ## Recursion and induction -/

section Fold

variable {α : Type} (onLeaf : Bool → Leaf → α) (onGroup : Bool → Connective → List α → α)

mutual

/-- The result for a tree, from those for its leaves and from a way to combine the
results for the members of a group. -/
def fold : Predicate → α
  | leaf negated l => onLeaf negated l
  | group negated connective children => onGroup negated connective (foldAll children)

def foldAll : List Predicate → List α
  | [] => []
  | child :: children => fold child :: foldAll children

end

theorem foldAll_eq_map (children : List Predicate) :
    foldAll onLeaf onGroup children = children.map (fold onLeaf onGroup) := by
  induction children with
  | nil => rfl
  | cons child children ih => simp [foldAll, ih]

@[simp] theorem fold_leaf (negated : Bool) (l : Leaf) :
    fold onLeaf onGroup (.leaf negated l) = onLeaf negated l := by
  simp [fold]

@[simp] theorem fold_group (negated : Bool) (connective : Connective)
    (children : List Predicate) :
    fold onLeaf onGroup (.group negated connective children) =
      onGroup negated connective (children.map (fold onLeaf onGroup)) := by
  simp [fold, foldAll_eq_map]

end Fold

/-- What holds of every leaf, and of every group whose members it holds of, holds of
every predicate. -/
@[elab_as_elim]
theorem induction {motive : Predicate → Prop}
    (leafCase : ∀ (negated : Bool) (l : Leaf), motive (.leaf negated l))
    (groupCase : ∀ (negated : Bool) (connective : Connective) (children : List Predicate),
      (∀ child ∈ children, motive child) → motive (.group negated connective children))
    (p : Predicate) : motive p :=
  Predicate.rec (motive_1 := motive) (motive_2 := fun children => ∀ child ∈ children, motive child)
    leafCase groupCase (by simp)
    (fun _ _ head tail => by simpa using And.intro head tail) p

@[simp] theorem withNegation_false (p : Predicate) : p.withNegation false = p := by
  cases p <;> simp [withNegation]

@[simp] theorem negate_negate (p : Predicate) : p.negate.negate = p := by
  cases p <;> simp [negate, withNegation]

end Predicate

end RecordFilter
