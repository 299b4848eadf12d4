/-!
# Fragments of text

The text of a condition is kept in pieces, to which more can be added at either end, so
that wrapping a condition does not copy it. When two texts are joined, the pieces of the
one with fewer move to the other.
-/

set_option autoImplicit false

namespace RecordFilter.Sql

/-- Pieces of text: those at the front in their order and those at the back in the
opposite order, with their number. -/
structure Fragments where
  front : List String
  back : List String
  size : Nat
  sized : size = front.length + back.length

namespace Fragments

def single (piece : String) : Fragments :=
  { front := [piece], back := [], size := 1, sized := rfl }

def pushFront (piece : String) (fragments : Fragments) : Fragments :=
  { fragments with
    front := piece :: fragments.front
    size := fragments.size + 1
    sized := by simp [fragments.sized, Nat.add_right_comm] }

def pushBack (fragments : Fragments) (piece : String) : Fragments :=
  { fragments with
    back := piece :: fragments.back
    size := fragments.size + 1
    sized := by simp [fragments.sized, Nat.add_assoc] }

def toList (fragments : Fragments) : List String :=
  fragments.front ++ fragments.back.reverse

def text (fragments : Fragments) : String :=
  String.join fragments.toList

/-- Moves the pieces of the right text behind those of the left one. -/
def append (left right : Fragments) : Fragments :=
  right.toList.foldl pushBack left

/-- Moves the pieces of the left text before those of the right one, the last one first. -/
def prepend (left right : Fragments) : Fragments :=
  left.toList.foldr pushFront right

def join (left : Fragments) (word : String) (right : Fragments) : Fragments :=
  let separator := " " ++ word ++ " "
  if right.size ≤ left.size then
    (((left.pushFront "(").pushBack separator).append right).pushBack ")"
  else ((left.prepend (right.pushFront separator)).pushFront "(").pushBack ")"

@[simp] theorem text_single (piece : String) : (single piece).text = piece := by
  simp [text, toList, single]

theorem toList_pushFront (piece : String) (fragments : Fragments) :
    (fragments.pushFront piece).toList = piece :: fragments.toList := rfl

theorem toList_pushBack (fragments : Fragments) (piece : String) :
    (fragments.pushBack piece).toList = fragments.toList ++ [piece] := by
  simp [toList, pushBack]

theorem toList_append (left right : Fragments) :
    (left.append right).toList = left.toList ++ right.toList := by
  unfold append
  generalize right.toList = pieces
  induction pieces generalizing left with
  | nil => simp
  | cons piece pieces ih => rw [List.foldl_cons, ih, toList_pushBack]; simp

theorem toList_prepend (left right : Fragments) :
    (left.prepend right).toList = left.toList ++ right.toList := by
  unfold prepend
  induction left.toList with
  | nil => rfl
  | cons piece pieces ih => rw [List.foldr_cons, toList_pushFront, ih, List.cons_append]

@[simp] theorem text_pushFront (piece : String) (fragments : Fragments) :
    (fragments.pushFront piece).text = piece ++ fragments.text := by
  rw [text, toList_pushFront, String.join_cons, text]

/-- Whichever side moves, the pieces of a joined text stand in the same order. -/
theorem toList_join (left : Fragments) (word : String) (right : Fragments) :
    (left.join word right).toList =
      "(" :: (left.toList ++ (" " ++ word ++ " ") :: (right.toList ++ [")"])) := by
  unfold join
  dsimp only
  split
  · simp [toList_pushBack, toList_append, toList_pushFront]
  · simp [toList_pushBack, toList_prepend, toList_pushFront]

theorem text_join (left : Fragments) (word : String) (right : Fragments) :
    (left.join word right).text =
      "(" ++ left.text ++ " " ++ word ++ " " ++ right.text ++ ")" := by
  rw [text, toList_join, ← String.toList_inj]
  simp [text, String.toList_join]

end Fragments

end RecordFilter.Sql
