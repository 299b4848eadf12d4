import RecordFilter.Text.Mark
import RecordFilter.Text.Visible

/-!
# Escaped text

Text between double quotes, written so that every character can be seen: the form in
which diagnostics show a token or a stored value.
-/

set_option autoImplicit false

namespace RecordFilter.Text

def escapedPoint (c : Char) : String :=
  "\\u\x7b" ++ String.ofList (Nat.toDigits 16 c.toNat) ++ "\x7d"

/-- One character: the double quote, the backslash and the common controls have short
escapes; a combining mark and whatever cannot be shown is given by its code point. -/
def escapeChar (c : Char) : String :=
  match c with
  | '\x22' => "\\\x22"
  | '\\' => "\\\\"
  | '\n' => "\\n"
  | '\r' => "\\r"
  | '\t' => "\\t"
  | '\x00' => "\\0"
  | c => if isMark c || !isVisible c then escapedPoint c else c.toString

def escaped (text : String) : String :=
  "\x22" ++ String.join (text.toList.map escapeChar) ++ "\x22"

end RecordFilter.Text
