import RecordFilter.Predicate.Basic
import RecordFilter.Sql.Property
import Std.Data.TreeSet

/-!
# Comparing split words

A comparison of an unsigned word becomes comparisons of its two parts. Equality is
equality of both; a word is greater if its high part is, or if the high parts are equal
and its low part is; the other comparisons are opposites of these.
-/

set_option autoImplicit false

namespace RecordFilter.Sql

structure SplitColumns where
  high : String
  low : String

namespace SplitColumns

def equalTo (columns : SplitColumns) (parts : SplitWord) : Predicate :=
  .all [.column columns.high .equal (.int64 parts.high),
    .column columns.low .equal (.int64 parts.low)]

/-- The high part is greater, or it is equal and the low parts compare as given. -/
def above (columns : SplitColumns) (parts : SplitWord) (lowComparison : Comparison) :
    Predicate :=
  .any [.column columns.high .greater (.int64 parts.high),
    .all [.column columns.high .equal (.int64 parts.high),
      .column columns.low lowComparison (.int64 parts.low)]]

/-- The high part is given and the low part is one of some; never, if there is none. -/
def bucket (columns : SplitColumns) (high : Int64) (lows : List Int64) : Predicate :=
  if lows.isEmpty then .constant false
  else
    .all [.column columns.high .equal (.int64 high),
      .columnAmong columns.low (lows.map .int64)]

/-- The word is one of a set: a bucket for either high part. -/
def anyOf (columns : SplitColumns) (words : Std.TreeSet UInt64) : Predicate :=
  let parts := words.toList.map SplitWord.ofWord
  let lows (high : Int64) : List Int64 :=
    (parts.filter (·.high = high)).map (·.low)
  .any [columns.bucket 0 (lows 0), columns.bucket 1 (lows 1)]

def ordered (columns : SplitColumns) (comparison : Comparison) (word : UInt64) : Predicate :=
  let parts := SplitWord.ofWord word
  match comparison with
  | .equal => columns.equalTo parts
  | .notEqual => (columns.equalTo parts).negate
  | .greater => columns.above parts .greater
  | .greaterOrEqual => columns.above parts .greaterOrEqual
  | .less => (columns.above parts .greaterOrEqual).negate
  | _ => (columns.above parts .greater).negate

end SplitColumns

def splitColumns (property : Property) : Result SplitColumns :=
  match property.columns with
  | [high, low] => .ok ⟨high, low⟩
  | columns =>
    .error (.codec splitName (.splitProperty property.name columns.length))

/-- The comparison of a split property as comparisons of its columns, the flag of the
leaf set aside. -/
def lowerSplitLeaf (leaf : Leaf) (property : Property) : Result Predicate := do
  let columns ← splitColumns property
  match leaf.comparison with
  | .oneOf =>
    let words ← leaf.values.mapM (unsignedWord property.name)
    return columns.anyOf (Std.TreeSet.ofList words)
  | .like => throw (.typeMismatch property.name leaf.value .uint64)
  | comparison =>
    let word ← unsignedWord property.name leaf.value
    return columns.ordered comparison word

def lowerSplit (p : Predicate) (property : Property) : Result Predicate :=
  match p with
  | .leaf negated leaf => do
    let lowered ← lowerSplitLeaf leaf property
    return lowered.withNegation negated
  | .group _ _ _ => .error (.malformed .notALeaf)

end RecordFilter.Sql
