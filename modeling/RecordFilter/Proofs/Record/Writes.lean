import RecordFilter.Proofs.Record.Answer
import RecordFilter.Record.Store

/-!
# Writes

What a store holds after a write, told by what it gives for each key. A write concerns one
key and leaves every other as it is, and whatever has been written, a record is found under
its own key.
-/

set_option autoImplicit false

namespace RecordFilter.Store

variable {store : Store}

theorem mem_keys {key : String} : key ∈ store.keys ↔ ∃ record, store.get? key = some record := by
  rw [keys, KeySet.mem_ofList, Std.TreeMap.mem_keys, get?, ← Option.isSome_iff_exists,
    Std.TreeMap.isSome_getElem?_iff_mem]

/-- What is said of every record of a store is said of the entries of a list. -/
theorem forall_get?_iff {motive : String → Record → Prop} :
    (∀ key record, store.get? key = some record → motive key record) ↔
      ∀ entry ∈ store.records.toList, motive entry.1 entry.2 := by
  constructor
  · intro each entry member
    exact each entry.1 entry.2 (Std.TreeMap.mem_toList_iff_getElem?_eq_some.mp member)
  · intro each key record found
    exact each (key, record) (Std.TreeMap.mem_toList_iff_getElem?_eq_some.mpr found)

/-! ## One write -/

inductive Write where
  | insert (record : Record)
  | erase (key : String)

/-- The key that a write concerns. -/
def Write.key : Write → String
  | insert record => record.key
  | erase key => key

def after (store : Store) : Write → Store
  | .insert record => store.insert record
  | .erase key => store.erase key

theorem get?_insert (store : Store) (record : Record) (key : String) :
    (store.insert record).get? key = if record.key = key then some record else store.get? key := by
  simp only [get?, insert, Std.TreeMap.getElem?_insert, Std.LawfulEqOrd.compare_eq_iff_eq]

theorem get?_erase (store : Store) (erased key : String) :
    (store.erase erased).get? key = if erased = key then none else store.get? key := by
  simp only [get?, erase, Std.TreeMap.getElem?_erase, Std.LawfulEqOrd.compare_eq_iff_eq]

theorem get?_after_of_ne {write : Write} {key : String} (different : key ≠ write.key) :
    (store.after write).get? key = store.get? key := by
  cases write with
  | insert record => exact (get?_insert store record key).trans (if_neg different.symm)
  | erase erased => exact (get?_erase store erased key).trans (if_neg different.symm)

/-! ## Histories -/

def replay (store : Store) (writes : List Write) : Store :=
  writes.foldl after store

/-- Every record is stored under its own key. -/
def Keyed (store : Store) : Prop :=
  ∀ key record, store.get? key = some record → record.key = key

theorem keyed_empty : empty.Keyed := by
  intro key record found
  cases found

theorem Keyed.after (keyed : store.Keyed) (write : Write) : (store.after write).Keyed := by
  intro key record found
  cases write with
  | insert inserted =>
      change (store.insert inserted).get? key = some record at found
      rw [get?_insert] at found
      split at found
      next same =>
        cases found
        exact same
      next => exact keyed key record found
  | erase erased =>
      change (store.erase erased).get? key = some record at found
      rw [get?_erase] at found
      split at found
      next => cases found
      next => exact keyed key record found

theorem Keyed.replay (keyed : store.Keyed) (writes : List Write) :
    (store.replay writes).Keyed := by
  induction writes generalizing store with
  | nil => exact keyed
  | cons write writes ih => exact ih (keyed.after write)

end RecordFilter.Store
