import RecordFilter.Predicate.Basic

/-!
# Building predicates

Predicates over the fields, the metadata and the identity of a record, by what they say.
-/

set_option autoImplicit false

namespace RecordFilter.Predicate

def field (name : String) (comparison : Comparison) (value : Value) : Predicate :=
  ofLeaf (.compare .value comparison (some name) value)

def metadata (name : String) (comparison : Comparison) (value : Value) : Predicate :=
  ofLeaf (.compare .metadata comparison (some name) value)

def equalTo (name : String) (value : Value) : Predicate :=
  field name .equal value

def differentFrom (name : String) (value : Value) : Predicate :=
  field name .notEqual value

def lessThan (name : String) (value : Value) : Predicate :=
  field name .less value

def atMost (name : String) (value : Value) : Predicate :=
  field name .lessOrEqual value

def greaterThan (name : String) (value : Value) : Predicate :=
  field name .greater value

def atLeast (name : String) (value : Value) : Predicate :=
  field name .greaterOrEqual value

def among (name : String) (values : List Value) : Predicate :=
  ofLeaf (.among .value (some name) values)

def like (name : String) (pattern : String) : Predicate :=
  field name .like (.string pattern)

def key (key : String) : Predicate :=
  ofLeaf (.compare .key .equal none (.string key))

def keys (keys : List String) : Predicate :=
  ofLeaf (.among .key none (keys.map .string))

def always : Predicate :=
  constant true

def never : Predicate :=
  constant false

def both (left right : Predicate) : Predicate :=
  all [left, right]

def either (left right : Predicate) : Predicate :=
  any [left, right]

/-- The field lies between two values or equals one of them. -/
def between (name : String) (low high : Value) : Predicate :=
  both (atLeast name low) (atMost name high)

def startsWith (name : String) (text : String) : Predicate :=
  like name (text ++ "%")

def contains (name : String) (text : String) : Predicate :=
  like name ("%" ++ text ++ "%")

end RecordFilter.Predicate
