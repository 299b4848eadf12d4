import RecordFilter.Decimal.Shortest

/-!
# Decimal notation

Two ways to write a binary number in its shortest digits. Plain notation never uses an
exponent and gives whole numbers without a point. Inspection notation keeps a point in
whole numbers and uses an exponent outside the range from `10 ^ -4` to below `10 ^ 16`.
-/

set_option autoImplicit false

namespace RecordFilter.Decimal

structure Notation where
  pointed : Bool
  /-- The decimal exponents of a leading digit that are written by position: from the
  first, and below the second. Without bounds every number is. -/
  positional : Option (Int × Int)

def plain : Notation :=
  { pointed := false, positional := none }

/-- A point in every number by position, an exponent for very small and large ones. -/
def inspection : Notation :=
  { pointed := true, positional := some (-4, 16) }

def zeros (count : Nat) : String :=
  String.ofList (List.replicate count '0')

def Notation.byPosition (notated : Notation) (d : Decimal) : String :=
  let digits := Nat.toDigits 10 d.digits
  if 0 ≤ d.exponent then
    String.ofList digits ++ zeros d.exponent.toNat ++ (if notated.pointed then ".0" else "")
  else
    let places := (-d.exponent).toNat
    if places < digits.length then
      String.ofList (digits.take (digits.length - places)) ++ "."
        ++ String.ofList (digits.drop (digits.length - places))
    else "0." ++ zeros (places - digits.length) ++ String.ofList digits

def leading (d : Decimal) : Int :=
  d.exponent + (Nat.toDigits 10 d.digits).length - 1

def byExponent (d : Decimal) : String :=
  let fraction :=
    match Nat.toDigits 10 d.digits with
    | [] => ""
    | [digit] => String.ofList [digit]
    | digit :: others => String.ofList (digit :: '.' :: others)
  fraction ++ "e" ++ toString d.leading

def Notation.absolute (notated : Notation) (x : Binary64) : String :=
  let d := shortest x
  match notated.positional with
  | some (first, limit) =>
    if x.magnitude ≠ 0 && (d.leading < first || limit ≤ d.leading) then byExponent d
    else notated.byPosition d
  | none => notated.byPosition d

/-- A number: its sign, kept on zero, and its digits, or the name of what it is instead
of a finite number. -/
def Notation.write (notated : Notation) (x : Binary64) : String :=
  if x.isNaN then "NaN"
  else
    (if x.isNegative then "-" else "")
      ++ (if x.isInfinite then "inf" else notated.absolute x)

end RecordFilter.Decimal
