import RecordFilter.Record.Store
import RecordFilter.Schema.Basic

/-!
# The demonstration collection

Four people, and the schema of the table that stores them.
-/

set_option autoImplicit false

namespace RecordFilter.Demo

def schema : Schema :=
  (Schema.empty "people" "people" "id")
    |>.withValue "name" "name" .varchar
    |>.withValue "age" "age" .int64
    |>.withValue "city" "city" .varchar
    |>.withValue "active" "active" .boolean
    |>.withProperty .value (.split "balance" "people" "balance")
    |>.withMetadata "created" "created_at" .timestamp

def person (key name : String) (age : Int64) (city : String) (active : Bool)
    (balance : UInt64) (created : Int64) : Record :=
  (Record.empty key)
    |>.withValue "name" (.string name)
    |>.withValue "age" (.int64 age)
    |>.withValue "city" (.string city)
    |>.withValue "active" (.boolean active)
    |>.withValue "balance" (.uint64 balance)
    |>.withMetadata "created" (.timestamp created)

def people : Store :=
  Store.ofList
    [ person "p1" "Ada" 25 "NY" true 120 1000,
      person "p2" "Grace" 40 "LA" true 18446744073709551615 2000,
      person "p3" "Linus" 50 "SF" false 9223372036854775808 3000,
      person "p4" "Barbara" 33 "NY" true 0 4000 ]

end RecordFilter.Demo
