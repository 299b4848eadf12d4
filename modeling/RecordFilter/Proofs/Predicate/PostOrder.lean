import Mathlib.Data.List.Nodup
import RecordFilter.Predicate.Builder
import RecordFilter.Proofs.Predicate.Assembly
import RecordFilter.Proofs.Predicate.InPlace
import RecordFilter.Proofs.Predicate.NormalShape

/-!
# Plans are in post-order

The steps of a plan stand for the places of a tree, one step for each place: those below the
first member of a group, below the second, and so on, and then the group. A step names the steps
of its members, which come before it, and every step but the last is named once. So a run finds
every result it asks for, and when it ends only the result of the root is left.
-/

set_option autoImplicit false

namespace RecordFilter

namespace Predicate

/-! ## Places from the leaves up -/

/-- The places of all nodes of a tree, those below a node before it and from left to right. -/
def postOrder : Predicate → List Place :=
  fold (fun _ _ => [[]]) fun _ _ members =>
    (members.zipIdx.flatMap fun (places, index) => places.map (index :: ·)) ++ [[]]

/-- The places of the nodes of several members of a group, the first of them being the member of
the given index. -/
def postOrderFrom (index : Nat) (children : List Predicate) : List Place :=
  (children.zipIdx index).flatMap fun (child, index) => child.postOrder.map (index :: ·)

@[simp] theorem postOrder_leaf (negated : Bool) (l : Leaf) : (leaf negated l).postOrder = [[]] := by
  simp [postOrder]

theorem postOrder_group (negated : Bool) (connective : Connective) (children : List Predicate) :
    (group negated connective children).postOrder = postOrderFrom 0 children ++ [[]] := by
  rw [postOrder, fold_group, postOrderFrom, List.zipIdx_map, List.flatMap_map]
  rfl

@[simp] theorem postOrderFrom_nil (index : Nat) : postOrderFrom index [] = [] := rfl

theorem postOrderFrom_cons (index : Nat) (child : Predicate) (children : List Predicate) :
    postOrderFrom index (child :: children) =
      child.postOrder.map (index :: ·) ++ postOrderFrom (index + 1) children := by
  rw [postOrderFrom, List.zipIdx_cons, List.flatMap_cons, postOrderFrom]

theorem exists_postOrder_eq (p : Predicate) : ∃ below, p.postOrder = below ++ [[]] := by
  cases p with
  | leaf negated l => exact ⟨[], postOrder_leaf negated l⟩
  | group negated connective children => exact ⟨_, postOrder_group negated connective children⟩

theorem length_postOrder (p : Predicate) : p.postOrder.length = p.weight := by
  induction p using Predicate.induction with
  | leafCase negated l => simp
  | groupCase negated connective children ih =>
      have members (index : Nat) :
          (postOrderFrom index children).length = total (children.map weight) := by
        induction children generalizing index with
        | nil => rfl
        | cons child children later =>
            obtain ⟨first, others⟩ := List.forall_mem_cons.mp ih
            rw [postOrderFrom_cons, List.length_append, List.length_map, first, later others]
            rfl
      rw [postOrder_group, List.length_append, members, weight_group]
      rfl

theorem mem_postOrderFrom_iff {children : List Predicate} {place : Place} {first : Nat} :
    place ∈ postOrderFrom first children ↔
      ∃ index child below, children[index]? = some child ∧ below ∈ child.postOrder ∧
        place = (first + index) :: below := by
  simp only [postOrderFrom, List.mem_flatMap, Prod.exists, List.mem_map,
    List.mk_mem_zipIdx_iff_le_and_getElem?_sub]
  constructor
  · rintro ⟨child, index, ⟨least, found⟩, below, member, rfl⟩
    exact ⟨index - first, child, below, found, member, by rw [Nat.add_sub_cancel' least]⟩
  · rintro ⟨index, child, below, found, member, rfl⟩
    exact ⟨child, first + index, ⟨by omega, by rwa [Nat.add_sub_cancel_left]⟩, below, member, rfl⟩

/-- Every place of the tree is listed. -/
theorem mem_postOrder_iff {p : Predicate} {place : Place} :
    place ∈ p.postOrder ↔ ∃ node, at? place p = some node := by
  induction p using Predicate.induction generalizing place with
  | leafCase negated l => cases place <;> simp [at?, children]
  | groupCase negated connective children ih =>
      rw [postOrder_group]
      cases place with
      | nil => simp [at?]
      | cons index below =>
          simp only [List.mem_append, mem_postOrderFrom_iff, List.mem_singleton,
            reduceCtorEq, or_false, Nat.zero_add, List.cons.injEq, at?, Predicate.children]
          constructor
          · rintro ⟨_, child, _, found, member, rfl, rfl⟩
            obtain ⟨node, inner⟩ := (ih child (List.mem_of_getElem? found)).mp member
            exact ⟨node, by rw [found]; exact inner⟩
          · rintro ⟨node, located⟩
            obtain ⟨child, found, inner⟩ := Option.bind_eq_some_iff.mp located
            exact ⟨index, child, below, found,
              (ih child (List.mem_of_getElem? found)).mpr ⟨node, inner⟩, rfl, rfl⟩

/-- No place is listed twice. -/
theorem nodup_postOrder (p : Predicate) : p.postOrder.Nodup := by
  induction p using Predicate.induction with
  | leafCase negated l => simp
  | groupCase negated connective children ih =>
      have members (first : Nat) : (postOrderFrom first children).Nodup := by
        induction children generalizing first with
        | nil => exact .nil
        | cons child children later =>
            obtain ⟨head, others⟩ := List.forall_mem_cons.mp ih
            rw [postOrderFrom_cons]
            refine List.Nodup.append (head.map fun _ _ => List.tail_eq_of_cons_eq)
              (later others _) ?_
            intro place left right
            obtain ⟨below, _, rfl⟩ := List.mem_map.mp left
            obtain ⟨index, _, _, _, _, same⟩ := mem_postOrderFrom_iff.mp right
            have indices := (List.cons.inj same).1
            omega
      rw [postOrder_group]
      refine List.Nodup.append (members 0) (List.nodup_singleton _) ?_
      intro place member root
      obtain ⟨_, _, _, _, _, rfl⟩ := mem_postOrderFrom_iff.mp member
      cases List.mem_singleton.mp root

end Predicate

namespace Plan

open Predicate (Place at? at?_append at?_snoc total weight postOrder postOrderFrom
  postOrderFrom_nil postOrderFrom_cons postOrder_leaf postOrder_group exists_postOrder_eq
  length_postOrder size_eq_weight foldM)

/-! ## The step of a place -/

/-- A step is that of a place: it holds the node at the place, and the steps that it names are
those of the places of the members, in their order. -/
structure StepAt (p : Predicate) (step : PlanStep) (place : Place) : Prop where
  node : at? place p = some step.node
  members : step.children.map (p.postOrder[·]?) =
    (List.range step.node.children.length).map fun index => some (place ++ [index])

section Steps

variable {root : Predicate} {place : Place} {children : List Predicate}

/-- The place of the root of a tree stands last among the places of the tree. -/
theorem getElem?_postOrder_root {child : Predicate} (before after : List Place)
    (split : root.postOrder = before ++ child.postOrder.map (place ++ ·) ++ after) :
    root.postOrder[before.length + child.weight - 1]? = some place := by
  obtain ⟨below, last⟩ := exists_postOrder_eq child
  have length := length_postOrder child
  rw [last, List.length_append, List.length_singleton] at length
  have whole : root.postOrder = (before ++ below.map (place ++ ·)) ++ place :: after := by
    rw [split, last]
    simp
  have position : before.length + child.weight - 1 =
      (before ++ below.map (place ++ ·)).length := by
    rw [← length, List.length_append, List.length_map]
    rfl
  rw [whole, position, List.getElem?_append_right (Nat.le_refl _), Nat.sub_self]
  rfl

/-- The steps of the members of a group stand for the places below them, and their roots for
the places of the members. -/
theorem stepAt_segments
    (each : ∀ child ∈ children, ∀ (place : Place) (before after : List Place),
      at? place root = some child →
        root.postOrder = before ++ child.postOrder.map (place ++ ·) ++ after →
          List.Forall₂ (StepAt root) (segment before.length child)
            (child.postOrder.map (place ++ ·)))
    (index : Nat) (before after : List Place)
    (found : ∀ offset child, children[offset]? = some child →
      at? (place ++ [index + offset]) root = some child)
    (split : root.postOrder =
      before ++ (postOrderFrom index children).map (place ++ ·) ++ after) :
    List.Forall₂ (StepAt root) (segments before.length children)
        ((postOrderFrom index children).map (place ++ ·)) ∧
      (roots before.length children).map (root.postOrder[·]?) =
        (List.range' index children.length).map fun index => some (place ++ [index]) := by
  induction children generalizing index before with
  | nil => exact ⟨.nil, rfl⟩
  | cons child children ih =>
      obtain ⟨first, others⟩ := List.forall_mem_cons.mp each
      -- the places of the first member join those before, so the steps of the others begin
      -- where its steps end
      have shifted : (child.postOrder.map (index :: ·)).map (place ++ ·) =
          child.postOrder.map (place ++ [index] ++ ·) := by
        simp
      rw [postOrderFrom_cons, List.map_append, shifted] at split ⊢
      have later : root.postOrder = before ++ child.postOrder.map (place ++ [index] ++ ·) ++
          ((postOrderFrom (index + 1) children).map (place ++ ·) ++ after) := by
        rw [split]
        simp only [List.append_assoc]
      have head := first _ before _ (found 0 child rfl) later
      have headRoot := getElem?_postOrder_root before _ later
      have next : (before ++ child.postOrder.map (place ++ [index] ++ ·)).length =
          before.length + child.weight := by
        rw [List.length_append, List.length_map, length_postOrder]
      obtain ⟨tail, tailRoots⟩ := ih others (index + 1)
        (before ++ child.postOrder.map (place ++ [index] ++ ·))
        (fun offset other member => by
          rw [Nat.add_right_comm]
          exact found (offset + 1) other member)
        (by simp only [later, List.append_assoc])
      rw [next] at tail tailRoots
      refine ⟨List.rel_append head tail, ?_⟩
      rw [roots, List.map_cons, headRoot, tailRoots, List.length_cons, List.range'_succ,
        List.map_cons]

/-- The steps of a tree stand for its places, wherever it stands in a larger tree. -/
theorem stepAt_segment {p : Predicate} (before after : List Place)
    (found : at? place root = some p)
    (split : root.postOrder = before ++ p.postOrder.map (place ++ ·) ++ after) :
    List.Forall₂ (StepAt root) (segment before.length p) (p.postOrder.map (place ++ ·)) := by
  induction p using Predicate.induction generalizing place before after with
  | leafCase negated l =>
      rw [postOrder_leaf, List.map_singleton, List.append_nil]
      exact .cons ⟨found, rfl⟩ .nil
  | groupCase negated connective children ih =>
      rw [postOrder_group, List.map_append, List.map_singleton, List.append_nil] at split ⊢
      rw [segment_group]
      have members (offset : Nat) (child : Predicate) (member : children[offset]? = some child) :
          at? (place ++ [0 + offset]) root = some child := by
        rw [at?_snoc, found, Nat.zero_add]
        exact member
      obtain ⟨steps, named⟩ := stepAt_segments
        (fun child member place before after => ih child member before after) 0 before
        ([place] ++ after) members (by rw [split]; simp)
      refine List.rel_append steps (.cons ⟨found, ?_⟩ .nil)
      rw [named, List.range_eq_range']
      rfl

theorem stepAt_steps (p : Predicate) :
    List.Forall₂ (StepAt p) (ofPredicate p).steps.toList p.postOrder := by
  have placed : p.postOrder.map ([] ++ ·) = p.postOrder := by simp
  have steps := stepAt_segment [] [] (rfl : at? [] p = some p) (by simp)
  rw [placed] at steps
  rw [steps_ofPredicate]
  exact steps

end Steps

/-! ## The steps that a step names -/

theorem roots_bounds {children : List Predicate} {start named : Nat}
    (member : named ∈ roots start children) :
    start ≤ named ∧ named < start + total (children.map weight) := by
  induction children generalizing start with
  | nil => cases member
  | cons child children ih =>
      obtain ⟨inner, positive⟩ := Predicate.exists_weight child
      simp only [List.map_cons, total]
      rcases List.mem_cons.mp member with rfl | later
      · omega
      · have bounds := ih later
        omega

theorem named_bounds_segments {children : List Predicate}
    (each : ∀ child ∈ children, ∀ (start place : Nat) (step : PlanStep),
      (segment start child)[place]? = some step →
        ∀ named ∈ step.children, start ≤ named ∧ named < start + place)
    {start place : Nat} {step : PlanStep} (found : (segments start children)[place]? = some step)
    {named : Nat} (member : named ∈ step.children) :
    start ≤ named ∧ named < start + place := by
  induction children generalizing start place with
  | nil => cases found
  | cons child children ih =>
      obtain ⟨first, others⟩ := List.forall_mem_cons.mp each
      rw [segments, List.getElem?_append, length_segment] at found
      split at found
      next => exact first start place step found named member
      next =>
        have bounds := ih others found
        omega

/-- The steps that a step names come before it. -/
theorem named_bounds_segment {p : Predicate} {start place : Nat} {step : PlanStep}
    (found : (segment start p)[place]? = some step) {named : Nat} (member : named ∈ step.children) :
    start ≤ named ∧ named < start + place := by
  induction p using Predicate.induction generalizing start place step named with
  | leafCase negated l =>
      rw [segment, List.getElem?_singleton] at found
      split at found
      next =>
        cases found
        cases member
      next => cases found
  | groupCase negated connective children ih =>
      have length : (segments start children).length = total (children.map weight) :=
        length_segments (fun child _ start => length_segment start child) start
      rw [segment_group, List.getElem?_append, length, List.getElem?_singleton] at found
      split at found
      next =>
        exact named_bounds_segments
          (fun child inside start place step found named => ih child inside found) found member
      next =>
        split at found
        next =>
          cases found
          have bounds := roots_bounds member
          omega
        next => cases found

theorem perm_segments {children : List Predicate}
    (each : ∀ child ∈ children, ∀ start,
      ((segment start child).flatMap (·.children) ++ [start + child.weight - 1]).Perm
        (List.range' start child.weight)) (start : Nat) :
    ((segments start children).flatMap (·.children) ++ roots start children).Perm
      (List.range' start (total (children.map weight))) := by
  induction children generalizing start with
  | nil => exact .refl _
  | cons child children ih =>
      obtain ⟨first, others⟩ := List.forall_mem_cons.mp each
      -- the root of the first member is named by the group and not within the member
      have both := (first start).append (ih others (start + child.weight))
      rw [List.range'_append_1] at both
      refine .trans ?_ both
      simp only [segments, roots, List.flatMap_append, List.append_assoc, List.singleton_append]
      exact (List.perm_middle).append_left _

/-- All steps of a tree but the last are named once, and the last is named by none. -/
theorem perm_segment (p : Predicate) (start : Nat) :
    ((segment start p).flatMap (·.children) ++ [start + p.weight - 1]).Perm
      (List.range' start p.weight) := by
  induction p using Predicate.induction generalizing start with
  | leafCase negated l => simp [segment]
  | groupCase negated connective children ih =>
      have members := perm_segments (fun child member start => ih child member start) start
      rw [segment_group, Predicate.weight_group, List.range'_1_concat]
      simpa using members.append_right [start + total (children.map weight)]

/-! ## Plans -/

/-- A plan is the post-order of a tree: it has a step for each place of the tree in that order,
with the steps of the members among those before it, and every step but the last is named by
one other step once. -/
structure IsPostOrder (p : Predicate) (plan : Plan) : Prop where
  size : plan.steps.size = p.size
  root : plan.steps.back?.map (·.node) = some p
  steps : List.Forall₂ (StepAt p) plan.steps.toList p.postOrder
  below : ∀ (place : Nat) (step : PlanStep), plan.steps[place]? = some step →
    ∀ named ∈ step.children, named < place
  once : (plan.steps.toList.flatMap (·.children)).Perm (List.range (plan.steps.size - 1))

theorem size_steps (p : Predicate) : (ofPredicate p).steps.size = p.weight := by
  rw [← Array.length_toList, steps_ofPredicate, length_segment]

theorem isPostOrder_ofPredicate (p : Predicate) : IsPostOrder p (ofPredicate p) where
  size := by rw [size_steps, size_eq_weight]
  root := by cases p <;> simp [ofPredicate, emit]
  steps := stepAt_steps p
  below := by
    intro place step found named member
    rw [← Array.getElem?_toList, steps_ofPredicate] at found
    have bounds := named_bounds_segment found member
    omega
  once := by
    obtain ⟨inner, weight⟩ := Predicate.exists_weight p
    have all := perm_segment p 0
    rw [size_steps, steps_ofPredicate, weight, List.range_eq_range']
    rw [weight, List.range'_1_concat, Nat.zero_add, Nat.zero_add] at all
    exact (List.perm_append_right_iff [inner]).mp all

/-- The two lists build the plan of every tree, and it is the post-order of the tree. So running
it with any function of a node and the results of its members is the recursion over the tree,
which finds every result that it asks for and takes all of them but that of the root. -/
theorem assembled_runs (p : Predicate) :
    assembled? p = some (ofPredicate p) ∧ IsPostOrder p (ofPredicate p) ∧
      p.postOrder.Nodup ∧ (∀ place, place ∈ p.postOrder ↔ ∃ node, at? place p = some node) ∧
      ∀ {m : Type → Type} [Monad m] [LawfulMonad m] [MonadExceptOf FilterError m] {β : Type}
        (visit : Predicate → List β → m β),
        (ofPredicate p).run visit = foldM visit p ∧
        runSteps visit (ofPredicate p).steps.toList #[] =
          (do
            let result ← foldM visit p
            pure ((Array.replicate (p.size - 1) none).push (some result))) :=
  ⟨assembled?_eq p, isPostOrder_ofPredicate p, Predicate.nodup_postOrder p,
    fun _ => Predicate.mem_postOrder_iff,
    fun visit => ⟨run_ofPredicate visit p, by
      rw [size_eq_weight]
      exact runSteps_ofPredicate visit p⟩⟩

/-- A group of three with an empty group and an inverted pair: six steps, and counting the nodes
below each of them gives six at the root. -/
theorem assembled_runs_nested :
    assembled? (.all [.key "a", .any [], (Predicate.any [.key "b", .key "c"]).negate]) =
        some (ofPredicate
          (.all [.key "a", .any [], (Predicate.any [.key "b", .key "c"]).negate])) ∧
      (.all [.key "a", .any [], (Predicate.any [.key "b", .key "c"]).negate] :
        Predicate).postOrder = [[0], [1], [2, 0], [2, 1], [2], []] ∧
      ((ofPredicate
        (.all [.key "a", .any [], (Predicate.any [.key "b", .key "c"]).negate])).run
          fun _ counts => (pure (total counts + 1) : Result Nat)) = .ok 6 := by
  obtain ⟨built, _, _, _, runs⟩ := assembled_runs
    (.all [.key "a", .any [], (Predicate.any [.key "b", .key "c"]).negate])
  refine ⟨built, ?_, (runs fun _ counts => (pure (total counts + 1) : Result Nat)).1.trans ?_⟩
  · simp [Predicate.postOrder_group, postOrderFrom_cons, Predicate.all, Predicate.any,
      Predicate.key, Predicate.negate, Predicate.withNegation, Predicate.ofLeaf]
  · rfl

end Plan

end RecordFilter
