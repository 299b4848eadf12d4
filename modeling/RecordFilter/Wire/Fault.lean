/-!
# Faults of the binary form

Why bytes are not a predicate in binary form.
-/

set_option autoImplicit false

namespace RecordFilter.Wire

inductive TextFault where
  /-- The bytes end within the character that begins at an offset. -/
  | incomplete (offset : Nat)
  /-- The bytes from an offset on, of the given number, begin no character. -/
  | invalid (offset : Nat) (length : Nat)
  deriving DecidableEq, Repr

def TextFault.message : TextFault → String
  | incomplete offset => "incomplete utf-8 byte sequence from index " ++ toString offset
  | invalid offset length =>
    "invalid utf-8 sequence of " ++ toString length ++ " bytes from index "
      ++ toString offset

inductive Fault where
  | endOfInput
  /-- Fewer bytes are left than a text declares. -/
  | shortText
  | truthByte (found : UInt8)
  /-- A byte other than zero and one where the presence of a text is due. -/
  | presenceByte (found : UInt8)
  /-- A tag beyond the number of choices. -/
  | tag (found : Nat) (choices : Nat)
  | text (fault : TextFault)
  deriving DecidableEq, Repr

def Fault.message : Fault → String
  | endOfInput => "io error: unexpected end of file"
  | shortText => "io error: "
  | truthByte found =>
    "invalid u8 while decoding bool, expected 0 or 1, found " ++ toString found.toNat
  | presenceByte found => "tag for enum is not valid, found " ++ toString found.toNat
  | tag found choices =>
    "invalid value: integer \x60" ++ toString found ++ "\x60, expected variant index 0 <= i < "
      ++ toString choices
  | text fault => "string is not valid utf8: " ++ fault.message

end RecordFilter.Wire
