import RecordFilter.Error
import RecordFilter.Value.Coercion

/-!
# Codecs

A codec stores a value of one type in a fixed number of columns and restores it from
them. The native codec uses one column; a timestamp is stored as its milliseconds.
-/

set_option autoImplicit false

namespace RecordFilter.Sql

structure Codec where
  name : String
  type : ScalarType
  /-- The number of columns that one value takes. -/
  columns : Nat
  encode : Value → Result (List Value)
  decode : List Value → Result Value

/-- The value that a column holds for a value of a type. -/
def stored : Value → Value
  | .timestamp t => .int64 t
  | v => v

def nativeName : String :=
  "native"

def unstorable (type : ScalarType) (v : Value) : FilterError :=
  .codec nativeName (.unstorable v type)

def nativeEncode (type : ScalarType) (v : Value) : Result (List Value) :=
  match v.coerce type with
  | some coerced => .ok [stored coerced]
  | none => .error (unstorable type v)

/-- Restores a value from one column; null stays null. -/
def nativeDecode (type : ScalarType) : List Value → Result Value
  | [.null] => .ok .null
  | [column] =>
    match column.coerce type with
    | some coerced => .ok coerced
    | none => .error (unstorable type column)
  | columns => .error (.codec nativeName (.columnCount columns.length))

def Codec.native (type : ScalarType) : Codec :=
  { name := nativeName
    type
    columns := 1
    encode := nativeEncode type
    decode := nativeDecode type }

end RecordFilter.Sql
