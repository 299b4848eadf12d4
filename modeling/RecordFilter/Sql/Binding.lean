import RecordFilter.Value.Basic

/-!
# Bound values

The values of a condition stand outside its text. Each is bound to a placeholder that is
numbered in the order in which the values come.
-/

set_option autoImplicit false

namespace RecordFilter.Sql

structure Binding where
  name : String
  value : Value
  deriving DecidableEq

def placeholder (marker : Char) (number : Nat) : String :=
  String.ofList [marker, 'p'] ++ toString number

/-- Values bound one after the other. -/
structure Bindings where
  marker : Char
  bound : Array Binding

namespace Bindings

def empty (marker : Char) : Bindings :=
  { marker, bound := #[] }

def next (bindings : Bindings) : String :=
  placeholder bindings.marker bindings.bound.size

def bind (bindings : Bindings) (value : Value) : Bindings :=
  { bindings with bound := bindings.bound.push ⟨bindings.next, value⟩ }

def size (bindings : Bindings) : Nat :=
  bindings.bound.size

end Bindings

end RecordFilter.Sql
