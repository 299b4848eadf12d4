import RecordFilter.Sql.Dialect
import RecordFilter.Sql.SplitComparison
import RecordFilter.Text.Escaped
import Std.Data.TreeMap

/-!
# Backends

A backend is a dialect and, for each codec that uses several columns, a way to lower
leaves about its properties to columns. A lowering takes the flag of the leaf into its
result.
-/

set_option autoImplicit false

namespace RecordFilter.Sql

/-- Lowers a leaf about a property to a predicate about columns. -/
abbrev Lowering : Type :=
  Predicate → Property → Result Predicate

structure Backend where
  dialect : Dialect
  lowerings : Std.TreeMap String Lowering

namespace Backend

def bare (dialect : Dialect) : Backend :=
  { dialect, lowerings := ∅ }

/-- Registers a lowering in place of an earlier one for the codec. -/
def withLowering (backend : Backend) (codec : String) (lowering : Lowering) : Backend :=
  { backend with lowerings := backend.lowerings.insert codec lowering }

/-- A backend that can lower split words. -/
def standard (dialect : Dialect) : Backend :=
  (bare dialect).withLowering splitName lowerSplit

def describeLowerings (backend : Backend) : String :=
  "RewriteRegistry \x7b codecs: ["
    ++ String.intercalate ", " (backend.lowerings.keys.map Text.escaped) ++ "] \x7d"

end Backend

end RecordFilter.Sql
