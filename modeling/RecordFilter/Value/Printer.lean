import RecordFilter.Decimal.Notation
import RecordFilter.Text.Escaped
import RecordFilter.Text.Quoted
import RecordFilter.Value.Basic

/-!
# Text of values

The literal form that filters and messages use, and the inspection form that names the
type of a value beside it.
-/

set_option autoImplicit false

namespace RecordFilter.Value

def truthText (truth : Bool) : String :=
  if truth then "true" else "false"

def text : Value → String
  | null => "null"
  | boolean b => truthText b
  | int32 n => toString n.toInt
  | int64 n => toString n.toInt
  | uint64 n => toString n.toNat
  | float64 x => Decimal.plain.write x
  | string s => Text.enclose '\x27' '\x27' s
  | timestamp t => "timestamp(" ++ toString t.toInt ++ ")"

def inspect : Value → String
  | null => "Null"
  | boolean b => "Boolean(" ++ truthText b ++ ")"
  | int32 n => "Int32(" ++ toString n.toInt ++ ")"
  | int64 n => "Int64(" ++ toString n.toInt ++ ")"
  | uint64 n => "UInt64(" ++ toString n.toNat ++ ")"
  | float64 x => "Float64(" ++ Decimal.inspection.write x ++ ")"
  | string s => "String(" ++ Text.escaped s ++ ")"
  | timestamp t => "Timestamp(" ++ toString t.toInt ++ ")"

end RecordFilter.Value
