import RecordFilter.Filter.SyntaxError
import RecordFilter.Predicate.Operator
import RecordFilter.Value.Printer
import RecordFilter.Wire.Fault

/-!
# Errors

Why a predicate cannot be read, checked, answered or put into SQL. An error is a cause;
its wording is one function.
-/

set_option autoImplicit false

namespace RecordFilter

/-- Why a tree is no predicate. -/
inductive Malformation where
  | groupWidth (children : Nat)
  | missingProperty (target : Target)
  | notConstant (target : Target)
  | constantLiteral (value : Value)
  | constantComparison (comparison : Comparison)
  | unaddressed (target : Target)
  /-- A group that is not a pair, where an answer takes pairs. -/
  | groupInEvaluation (children : Nat)
  /-- A group that is not a pair, where a condition takes pairs. -/
  | groupInCondition (connective : Connective) (children : Nat)
  /-- A leaf about a property where only columns are left. -/
  | unresolvedLeaf (target : Target) (property : String)
  | notALeaf
  /-- A plan that uses the result of a step twice. -/
  | stepTakenTwice
  | emptyPlan
  deriving DecidableEq

def Malformation.message : Malformation → String
  | groupWidth children => "group with " ++ toString children ++ " children"
  | missingProperty target => target.name ++ " leaf without a property"
  | notConstant target => target.name ++ " leaf has no constant truth value"
  | constantLiteral value => "constant leaf carries non-boolean literal " ++ value.text
  | constantComparison comparison =>
    "constant leaf cannot use comparison " ++ comparison.name
  | unaddressed target => target.name ++ " leaf does not address a schema property"
  | groupInEvaluation children =>
    "group with " ++ toString children ++ " children reached evaluation"
  | groupInCondition connective children =>
    connective.keyword ++ " group with " ++ toString children
      ++ " children after normalization"
  | unresolvedLeaf target property =>
    target.name ++ " leaf '" ++ property ++ "' survived the rewrite pass"
  | notALeaf => "only leaves can be rewritten"
  | stepTakenTwice => "plan step consumed twice"
  | emptyPlan => "empty evaluation plan"

/-- Why a codec cannot store or restore a value, or a property cannot use its codec. -/
inductive CodecFault where
  | unstorable (value : Value) (type : ScalarType)
  | columnCount (found : Nat)
  /-- Two words that no unsigned word is split into. -/
  | splitPair (high low : Int64)
  | splitColumns (columns : List Value)
  /-- A property whose columns are not as many as its codec writes. -/
  | propertyColumns (property : String) (found needed : Nat)
  | splitProperty (property : String) (found : Nat)
  | foreignTable (property table collection : String)
  | noColumn (property : String)
  | keyColumn (property : String)
  | noEncoding (value : Value)
  | custom (reason : String)
  deriving DecidableEq

def CodecFault.message : CodecFault → String
  | unstorable value type => "cannot store " ++ value.text ++ " as " ++ type.name
  | columnCount found => "expected 1 column, got " ++ toString found
  | splitPair high low =>
    "invalid split pair (" ++ toString high.toInt ++ ", " ++ toString low.toInt ++ ")"
  | splitColumns columns =>
    "expected two int64 columns, got [" ++ String.intercalate ", " (columns.map Value.inspect)
      ++ "]"
  | propertyColumns property found needed =>
    "property '" ++ property ++ "' maps to " ++ toString found
      ++ " columns but the codec needs " ++ toString needed
  | splitProperty property found =>
    "property '" ++ property ++ "' needs exactly two columns, has " ++ toString found
  | foreignTable property table collection =>
    "property '" ++ property ++ "' is stored on table '" ++ table ++ "', not '"
      ++ collection ++ "'"
  | noColumn property => "property '" ++ property ++ "' has no column"
  | keyColumn property => "key property '" ++ property ++ "' must map to one column"
  | noEncoding value => "encoded " ++ value.text ++ " into no columns"
  | custom reason => reason

/-- Why a predicate cannot be read, checked, answered or put into SQL. -/
inductive FilterError where
  | unknownProperty (property : String) (target : Target)
  | typeMismatch (property : String) (value : Value) (expected : ScalarType)
  | malformed (malformation : Malformation)
  /-- A property over several columns whose codec has no lowering. -/
  | missingLowering (property codec : String)
  | codec (name : String) (fault : CodecFault)
  | wire (fault : Wire.Fault)
  | parse (error : Filter.SyntaxError)
  | duplicateCollection (name : String)
  | unknownCollection (name : String)
  deriving DecidableEq

def FilterError.message : FilterError → String
  | unknownProperty property target =>
    "Unknown " ++ target.name ++ " property '" ++ property ++ "'"
  | typeMismatch property value expected =>
    "Value " ++ value.text ++ " is not comparable with property '" ++ property
      ++ "' of type " ++ expected.name
  | malformed malformation => "Malformed predicate tree: " ++ malformation.message
  | missingLowering property name =>
    "Property '" ++ property ++ "' uses multi-column codec '" ++ name
      ++ "' with no registered rewrite hook"
  | codec name fault => "Codec '" ++ name ++ "' error: " ++ fault.message
  | wire fault => "Predicate encoding error: " ++ fault.message
  | parse error =>
    "Filter parse error at offset " ++ toString error.position ++ ": "
      ++ error.fault.message
  | duplicateCollection name => "Collection '" ++ name ++ "' is already registered"
  | unknownCollection name => "Unknown collection '" ++ name ++ "'"

abbrev Result (α : Type) : Type :=
  Except FilterError α

end RecordFilter
