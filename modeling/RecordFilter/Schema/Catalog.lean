import RecordFilter.Schema.Basic
import RecordFilter.Sql.Statement

/-!
# Catalogs

The collections that one backend serves. A collection is checked against the backend when
it is registered, and its name may not be taken.
-/

set_option autoImplicit false

namespace RecordFilter

open Sql (Backend Statement)

structure Catalog where
  backend : Backend
  collections : Std.TreeMap String Schema

namespace Catalog

def empty (backend : Backend) : Catalog :=
  { backend, collections := ∅ }

def contains (catalog : Catalog) (name : String) : Bool :=
  catalog.collections.contains name

def register (catalog : Catalog) (schema : Schema) : Result Catalog := do
  schema.checkBackend catalog.backend
  if catalog.contains schema.name then throw (.duplicateCollection schema.name)
  return { catalog with collections := catalog.collections.insert schema.name schema }

def get (catalog : Catalog) (name : String) : Result Schema :=
  match catalog.collections[name]? with
  | some schema => .ok schema
  | none => .error (.unknownCollection name)

def get? (catalog : Catalog) (name : String) : Option Schema :=
  catalog.collections[name]?

def erase (catalog : Catalog) (name : String) : Catalog :=
  { catalog with collections := catalog.collections.erase name }

def names (catalog : Catalog) : List String :=
  catalog.collections.keys

def size (catalog : Catalog) : Nat :=
  catalog.collections.size

def whereClause (catalog : Catalog) (name : String) (p : Predicate) : Result Statement := do
  let schema ← catalog.get name
  Sql.Compiler.whereClause { resolver := schema.resolver, backend := catalog.backend } p

end Catalog

end RecordFilter
