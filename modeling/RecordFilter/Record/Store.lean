import RecordFilter.Record.Evaluation

/-!
# Stores

Records under their keys, in the order of the keys.
-/

set_option autoImplicit false

namespace RecordFilter

structure Store where
  records : Std.TreeMap String Record

namespace Store

def empty : Store :=
  ⟨∅⟩

def get? (store : Store) (key : String) : Option Record :=
  store.records[key]?

/-- Adds a record in place of the one with its key. -/
def insert (store : Store) (record : Record) : Store :=
  ⟨store.records.insert record.key record⟩

def erase (store : Store) (key : String) : Store :=
  ⟨store.records.erase key⟩

def ofList (records : List Record) : Store :=
  records.foldl insert empty

def toList (store : Store) : List Record :=
  store.records.values

def keys (store : Store) : KeySet :=
  Std.TreeSet.ofList store.records.keys

def size (store : Store) : Nat :=
  store.records.size

/-- All records of a store, each of which an answer may hold. -/
def population (store : Store) : Population :=
  { record? := store.get?, keys := store.keys }

def query (store : Store) (p : Predicate) : Result KeySet :=
  store.population.evaluate p

end Store

end RecordFilter
