import RecordFilter.Predicate.Basic

/-!
# Text of predicates

A predicate in the filter language: a group between parentheses, `not` before what is
inverted, and parentheses around an inverted leaf.
-/

set_option autoImplicit false

namespace RecordFilter.Predicate

/-- An inverted leaf stands between parentheses. -/
def leafText (negated : Bool) (l : Leaf) : String :=
  if negated then "not (" ++ l.text ++ ")" else l.text

def groupText (negated : Bool) (connective : Connective) (members : List String) : String :=
  (if negated then "not " else "")
    ++ "(" ++ String.intercalate (" " ++ connective.keyword ++ " ") members ++ ")"

def text : Predicate → String :=
  fold leafText groupText

@[simp] theorem text_leaf (negated : Bool) (l : Leaf) :
    (leaf negated l).text = leafText negated l := by
  simp [text]

@[simp] theorem text_group (negated : Bool) (connective : Connective)
    (children : List Predicate) :
    (group negated connective children).text =
      groupText negated connective (children.map text) := by
  simp [text]

end RecordFilter.Predicate
