import RecordFilter.Predicate.Leaf
import RecordFilter.Sql.SplitWord

/-!
# Properties

Where the values of a property are stored, and which property a leaf addresses.
-/

set_option autoImplicit false

namespace RecordFilter.Sql

structure Property where
  name : String
  table : String
  /-- The columns in the order of the codec. -/
  columns : List String
  codec : Codec

namespace Property

def native (name table column : String) (type : ScalarType) : Property :=
  { name, table, columns := [column], codec := .native type }

/-- A property whose words are split over two columns named after one. -/
def split (name table column : String) : Property :=
  { name, table, columns := [column ++ "_hi", column ++ "_lo"], codec := .split }

/-- The column of a property that has one and needs one. -/
def singleColumn? (property : Property) : Option String :=
  match property.columns with
  | [column] => if property.codec.columns = 1 then some column else none
  | _ => none

def checkColumns (property : Property) : Result Unit :=
  if property.columns.length ≠ property.codec.columns then
    .error (.codec property.codec.name
      (.propertyColumns property.name property.columns.length property.codec.columns))
  else .ok ()

end Property

structure Resolver where
  table : String
  key : Property
  /-- The property of a name among the values or the metadata. -/
  property? : Target → String → Option Property

def Resolver.resolve (resolver : Resolver) (leaf : Leaf) : Result Property :=
  match leaf.target, leaf.property with
  | .key, _ => .ok resolver.key
  | .value, some name =>
    match resolver.property? .value name with
    | some property => .ok property
    | none => .error (.unknownProperty name .value)
  | .metadata, some name =>
    match resolver.property? .metadata name with
    | some property => .ok property
    | none => .error (.unknownProperty name .metadata)
  | target, _ => .error (.malformed (.unaddressed target))

end RecordFilter.Sql
