import RecordFilter.Sql.Backend
import Std.Data.TreeMap

/-!
# Schemas

A schema names a collection, the table that stores it, and its properties: the identity,
which is a string in one column, the values and the metadata, each in the order of their
names.
-/

set_option autoImplicit false

namespace RecordFilter

open Sql (Property Resolver Backend)

structure Schema where
  name : String
  table : String
  keyColumn : String
  values : Std.TreeMap String Property
  metadata : Std.TreeMap String Property

namespace Schema

def empty (name table keyColumn : String) : Schema :=
  { name, table, keyColumn, values := ∅, metadata := ∅ }

def key (schema : Schema) : Property :=
  .native "key" schema.table schema.keyColumn .varchar

/-- Adds a property in place of the one with its name. Only values and metadata have
properties of their own. -/
def withProperty (schema : Schema) (target : Target) (property : Property) : Schema :=
  match target with
  | .value => { schema with values := schema.values.insert property.name property }
  | .metadata => { schema with metadata := schema.metadata.insert property.name property }
  | .constant | .key | .column => schema

def withValue (schema : Schema) (name column : String) (type : ScalarType) : Schema :=
  schema.withProperty .value (.native name schema.table column type)

def withMetadata (schema : Schema) (name column : String) (type : ScalarType) : Schema :=
  schema.withProperty .metadata (.native name schema.table column type)

def properties (schema : Schema) : List Property :=
  schema.key :: schema.values.values ++ schema.metadata.values

def property? (schema : Schema) (target : Target) (name : String) : Option Property :=
  match target with
  | .value => schema.values[name]?
  | .metadata => schema.metadata[name]?
  | .constant | .key | .column => none

def resolver (schema : Schema) : Resolver :=
  { table := schema.table, key := schema.key, property? := schema.property? }

/-- Checks that a property is stored on the table of its collection, in as many columns
as its codec needs, and that the backend can lower it if they are several. -/
def checkProperty (schema : Schema) (backend : Backend) (property : Property) :
    Result Unit := do
  if property.table ≠ schema.table then
    throw (.codec property.codec.name
      (.foreignTable property.name property.table schema.table))
  property.checkColumns
  if 1 < property.codec.columns && !backend.lowerings.contains property.codec.name then
    throw (.missingLowering property.name property.codec.name)

def checkBackend (schema : Schema) (backend : Backend) : Result Unit :=
  schema.properties.forM (schema.checkProperty backend)

end Schema

end RecordFilter
