import RecordFilter.Predicate.Operator
import RecordFilter.Value.Basic
import Std.Data.TreeMap
import Std.Data.TreeSet

/-!
# Records

A record is identified by its key and holds named fields in two bags, its values and its
metadata. Fields are kept in the order of their names.
-/

set_option autoImplicit false

namespace RecordFilter

/-- Named fields in the order of their names. -/
abbrev Bag : Type :=
  Std.TreeMap String Value

abbrev KeySet : Type :=
  Std.TreeSet String

structure Record where
  key : String
  values : Bag
  metadata : Bag

namespace Record

def empty (key : String) : Record :=
  { key, values := ∅, metadata := ∅ }

def withValue (record : Record) (name : String) (value : Value) : Record :=
  { record with values := record.values.insert name value }

def withMetadata (record : Record) (name : String) (value : Value) : Record :=
  { record with metadata := record.metadata.insert name value }

/-- The field that a leaf about a target reads. Physical columns are kept among the
values; constants and keys read no field. -/
def field? (record : Record) (target : Target) (name : String) : Option Value :=
  match target with
  | .value | .column => record.values[name]?
  | .metadata => record.metadata[name]?
  | .constant | .key => none

end Record

end RecordFilter
