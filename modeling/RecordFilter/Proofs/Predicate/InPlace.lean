import RecordFilter.Predicate.InPlace
import Mathlib.Data.List.Induction

/-!
# The normal form reached in place

The loop that brings a tree to normal form where it stands gives the normal form. Every
pending place stays the place of its node until it is looked at, and when the loop has gone
on to the next pending place, the tree below it is in normal form.
-/

set_option autoImplicit false

namespace RecordFilter.Predicate

/-! ## Places -/

theorem at?_append (place more : Place) (p : Predicate) :
    at? (place ++ more) p = (at? place p).bind (at? more) := by
  induction place generalizing p with
  | nil => rfl
  | cons index place ih =>
      simp only [List.cons_append, at?, Option.bind_assoc]
      congr 1
      funext child
      exact ih child

theorem at?_snoc (place : Place) (index : Nat) (p : Predicate) :
    at? (place ++ [index]) p = (at? place p).bind (·.children[index]?) := by
  rw [at?_append]
  congr 1
  funext node
  simp [at?]

theorem modifyAt_append (change : Predicate → Predicate) (place more : Place) (p : Predicate) :
    modifyAt change (place ++ more) p = modifyAt (modifyAt change more) place p := by
  induction place generalizing p with
  | nil => rfl
  | cons index place ih =>
      cases p with
      | leaf negated l => rfl
      | group negated connective children =>
          simp only [List.cons_append, modifyAt]
          congr 2
          funext child
          exact ih child

theorem modify_length_append (change : Predicate → Predicate) (before : List Predicate)
    (child : Predicate) (after : List Predicate) :
    (before ++ child :: after).modify before.length change = before ++ change child :: after := by
  induction before with
  | nil => rfl
  | cons first before ih => simp [ih]

/-- Below the root, a place is one of a member. -/
theorem exists_member_of_at? {index : Nat} {place : Place} {p node : Predicate}
    (found : at? (index :: place) p = some node) :
    ∃ negated connective before child after,
      p = group negated connective (before ++ child :: after) ∧ index = before.length ∧
        at? place child = some node := by
  obtain ⟨child, member, inner⟩ := Option.bind_eq_some_iff.mp found
  cases p with
  | leaf negated l => cases member
  | group negated connective children =>
      have member : children[index]? = some child := member
      obtain ⟨inside, _⟩ := List.getElem?_eq_some_iff.mp member
      obtain ⟨before, other, after, rfl, rfl, _⟩ := List.exists_of_modify id inside
      obtain rfl : other = child := by simpa using member
      exact ⟨negated, connective, before, other, after, rfl, rfl, inner⟩

theorem modifyAt_modifyAt (first second : Predicate → Predicate) (place : Place) (p : Predicate) :
    modifyAt second place (modifyAt first place p) =
      modifyAt (fun node => second (first node)) place p := by
  induction place generalizing p with
  | nil => rfl
  | cons index place ih =>
      cases p with
      | leaf negated l => rfl
      | group negated connective children =>
          simp only [modifyAt, List.modify_modify_eq]
          congr 2
          funext child
          exact ih child

theorem modifyAt_id (place : Place) (p : Predicate) : modifyAt id place p = p := by
  induction place generalizing p with
  | nil => rfl
  | cons index place ih =>
      cases p with
      | leaf negated l => rfl
      | group negated connective children =>
          have same : modifyAt id place = id := funext ih
          rw [modifyAt, same, List.modify_id]

/-- What becomes of a tree depends on the change of the one node only. -/
theorem modifyAt_congr {first second : Predicate → Predicate} {place : Place}
    {p node : Predicate} (found : at? place p = some node) (same : first node = second node) :
    modifyAt first place p = modifyAt second place p := by
  induction place generalizing p with
  | nil =>
      cases found
      exact same
  | cons index place ih =>
      obtain ⟨negated, connective, before, child, after, rfl, rfl, inner⟩ :=
        exists_member_of_at? found
      simp only [modifyAt, modify_length_append, ih inner]

/-! ## The loop -/

/-- The members of a node are brought to normal form from the last to the first, by
induction on those that are left. -/
theorem pairPending_members {negated : Bool} {connective : Connective} {place : Place}
    {members : List Predicate} (done : List Predicate)
    (each : ∀ member ∈ members, ∀ (place : Place) (pending : List Place) (p : Predicate),
      at? place p = some member →
        pairPending (place :: pending) p = pairPending pending (modifyAt normalized place p))
    (pending : List Place) {p : Predicate}
    (found : at? place p = some (group negated connective (members ++ done))) :
    pairPending ((List.range members.length).reverse.map (place ++ [·]) ++ pending) p =
      pairPending pending (modifyAt
        (fun _ => group negated connective (members.map normalized ++ done)) place p) := by
  induction members using List.reverseRecOn generalizing done p with
  | nil =>
      have unchanged : modifyAt (fun _ => group negated connective done) place p =
          modifyAt id place p := modifyAt_congr found rfl
      simp [unchanged, modifyAt_id]
  | append_singleton members last ih =>
      have lastFound : at? (place ++ [members.length]) p = some last := by
        simp [at?_snoc, found, children]
      have changed := at?_modifyAt (modifyAt normalized [members.length]) place p
      simp only [found, Option.map_some, modifyAt, List.append_assoc, List.singleton_append,
        modify_length_append] at changed
      rw [List.length_append, List.length_singleton, List.range_succ, List.reverse_append,
        List.reverse_singleton, List.singleton_append, List.map_cons, List.cons_append,
        each last (by simp) _ _ _ lastFound, modifyAt_append,
        ih _ (fun member inside => each member (by simp [inside])) changed, modifyAt_modifyAt]
      simp

/-- The loop leaves the normal form of a tree in its place before it goes on to the next
place. The induction is on the normal form, which holds the nodes that are looked at. -/
theorem pairPending_cons {place : Place} (pending : List Place) {p node : Predicate}
    (found : at? place p = some node) :
    pairPending (place :: pending) p = pairPending pending (modifyAt normalized place p) := by
  generalize bound : node.normalized.weight = weight
  induction weight using Nat.strongRecOn generalizing place pending p node with
  | ind weight ih =>
      have changed := at?_modifyAt paired place p
      rw [found, Option.map_some] at changed
      rw [pairPending]
      simp only [placesBelow, changed]
      cases node with
      | leaf negated l =>
          have same : modifyAt paired place p = modifyAt normalized place p :=
            modifyAt_congr found (normalized_leaf negated l).symm
          simp [paired, children, same]
      | group negated connective children =>
          have form := normalized_eq_paired negated connective children
          have each : ∀ member ∈ pairUp connective children, ∀ (place : Place)
              (pending : List Place) (p : Predicate), at? place p = some member →
                pairPending (place :: pending) p =
                  pairPending pending (modifyAt normalized place p) := by
            intro member inside place pending p found
            refine ih _ ?_ pending found rfl
            rw [← bound, form]
            have member : member.normalized ∈ (group negated connective
                ((pairUp connective children).map normalized)).children :=
              List.mem_map_of_mem inside
            exact weight_lt_of_mem member
          have run := pairPending_members [] each pending
            (changed.trans (by rw [List.append_nil]; rfl))
          rw [paired, Predicate.children, run, modifyAt_modifyAt, List.append_nil, ← form]
          congr 1
          exact modifyAt_congr found rfl

theorem normalizeInPlace_eq (p : Predicate) : p.normalizeInPlace = p.normalized := by
  have found : at? [] p = some p := rfl
  rw [normalizeInPlace, pairPending_cons [] found, pairPending]
  rfl

end RecordFilter.Predicate
