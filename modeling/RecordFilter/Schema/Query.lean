import RecordFilter.Record.Store
import RecordFilter.Sql.Typing

/-!
# Checked queries

A predicate can be checked against a collection before any record is looked at.
-/

set_option autoImplicit false

namespace RecordFilter.Store

/-- The keys of the records for which a predicate holds, if it fits the collection. -/
def queryChecked (store : Store) (p : Predicate) (resolver : Sql.Resolver) :
    Result KeySet := do
  p.validate resolver
  store.query p

end RecordFilter.Store
