import RecordFilter.Predicate.Builder
import RecordFilter.Proofs.Record.Acceptance
import RecordFilter.Proofs.Record.Writes
import RecordFilter.Proofs.Text.Fragment

/-!
# Looking for beginnings and fragments

A stem that is looked for at the beginning of a field, or anywhere in it, is read as a part of
a pattern. A store of texts always has an answer, and no text that begins with the stem, or
includes it, is left out of it; but other texts are in it for every stem with a wildcard.
-/

set_option autoImplicit false

namespace RecordFilter

open Text (Begins Includes Spells Plain Fits)

namespace Store

/-- The field of the record stored under a key is this text. -/
def HasText (store : Store) (key name text : String) : Prop :=
  ∃ record, store.get? key = some record ∧ record.values[name]? = some (.string text)

/-- In every record the field is missing, null or a text. -/
def HoldsTexts (store : Store) (name : String) : Prop :=
  ∀ key record v, store.get? key = some record → record.values[name]? = some v →
    v = .null ∨ ∃ text, v = .string text

/-- A query has an answer, the keys of the records whose field is a text of this form. -/
def Finds (store : Store) (p : Predicate) (name : String) (form : List Char → Prop) : Prop :=
  ∃ answer, store.query p = .ok answer ∧
    ∀ key, key ∈ answer ↔ ∃ text, store.HasText key name text ∧ form text.toList

variable {store : Store} {name : String}

theorem leafHolds_like (key pattern : String) :
    store.population.leafHolds (.compare .value .like (some name) (.string pattern)) key = true ↔
      ∃ text, store.HasText key name text ∧ Fits pattern.toList text.toList := by
  rw [Population.leafHolds_field rfl rfl, Option.any_eq_true]
  constructor
  · rintro ⟨v, found, agrees⟩
    obtain ⟨record, stored, field⟩ := Option.bind_eq_some_iff.mp found
    rw [Bool.and_eq_true, Leaf.agrees_like v rfl] at agrees
    cases v with
    | string text => exact ⟨text, ⟨record, stored, field⟩, Text.completes_agree_iff.mp agrees.2⟩
    | _ => cases agrees.2
  · rintro ⟨text, ⟨record, stored, field⟩, fits⟩
    refine ⟨.string text, Option.bind_eq_some_iff.mpr ⟨record, stored, field⟩, ?_⟩
    rw [Bool.and_eq_true, Leaf.agrees_like _ rfl]
    exact ⟨rfl, Text.completes_agree_iff.mpr fits⟩

theorem HoldsTexts.exists_leafKeys (texts : store.HoldsTexts name) (pattern : String) :
    ∃ chosen, store.population.leafKeys (.compare .value .like (some name) (.string pattern)) =
      .ok chosen := by
  have fits : (Leaf.compare .value .like (some name) (.string pattern)).checkAgainst
      (.native name "" "" .varchar) = .ok () := rfl
  refine Population.exists_leafKeys_field rfl rfl rfl fits fun key _ v found => ?_
  obtain ⟨record, stored, field⟩ := Option.bind_eq_some_iff.mp found
  rcases texts key record v stored field with rfl | ⟨text, rfl⟩
  · exact .inl rfl
  · exact .inr ⟨_, rfl⟩

/-- A pattern is looked for in a store of texts: those that fit it are found. -/
theorem HoldsTexts.finds_like (texts : store.HoldsTexts name) (pattern : String) :
    store.Finds (.like name pattern) name (Fits pattern.toList) := by
  have answered : ∃ answer, store.query (.like name pattern) = .ok answer := by
    apply Population.evaluate_eq_ok_iff.mpr
    refine ⟨Predicate.checkShape_leaf .., fun leaf member => ?_⟩
    rw [Predicate.like, Predicate.field, Predicate.ofLeaf, Predicate.leaves_leaf] at member
    cases List.mem_singleton.mp member
    exact texts.exists_leafKeys pattern
  obtain ⟨answer, success⟩ := answered
  refine ⟨answer, success, fun key => ?_⟩
  have told := Population.mem_evaluate success key
  rw [Predicate.like, Predicate.field, Predicate.ofLeaf, Population.holds_leaf, Bool.false_xor,
    leafHolds_like] at told
  rw [told]
  apply and_iff_right_of_imp
  rintro ⟨text, ⟨record, stored, _⟩, _⟩
  exact mem_keys.mpr ⟨record, stored⟩

theorem HoldsTexts.finds_startsWith (texts : store.HoldsTexts name) (stem : String) :
    store.Finds (.startsWith name stem) name (Begins (Fits stem.toList)) := by
  have finds := texts.finds_like (stem ++ "%")
  have pattern : (stem ++ "%").toList = stem.toList ++ ['%'] := String.toList_append
  simpa only [Finds, pattern, Text.fits_stem_run, Predicate.startsWith] using finds

theorem HoldsTexts.finds_contains (texts : store.HoldsTexts name) (stem : String) :
    store.Finds (.contains name stem) name (Includes (Fits stem.toList)) := by
  have finds := texts.finds_like ("%" ++ stem ++ "%")
  have pattern : ("%" ++ stem ++ "%").toList = '%' :: (stem.toList ++ ['%']) := by
    rw [String.toList_append, String.toList_append]
    rfl
  simpa only [Finds, pattern, Text.fits_run_stem_run, Predicate.contains] using finds

/-! ## Two readings of one query -/

theorem HasText.unique {key text other : String} (has : store.HasText key name text)
    (hasOther : store.HasText key name other) : text = other := by
  obtain ⟨record, stored, field⟩ := has
  obtain ⟨found, storedOther, fieldOther⟩ := hasOther
  cases stored.symm.trans storedOther
  cases field.symm.trans fieldOther
  rfl

/-- The texts of one answer are of any form that it has them for. -/
theorem Finds.form_of_form {p : Predicate} {form other : List Char → Prop}
    (finds : store.Finds p name form) (findsOther : store.Finds p name other) {key text : String}
    (has : store.HasText key name text) (formed : form text.toList) : other text.toList := by
  obtain ⟨answer, success, told⟩ := finds
  obtain ⟨found, successOther, toldOther⟩ := findsOther
  cases success.symm.trans successOther
  obtain ⟨read, hasRead, formedRead⟩ := (toldOther key).mp ((told key).mpr ⟨text, has, formed⟩)
  cases has.unique hasRead
  exact formedRead

/-- One record with one field, a text. -/
def ofText (name text : String) : Store :=
  empty.insert ((Record.empty "p1").withValue name (.string text))

theorem hasText_ofText (name text : String) : (ofText name text).HasText "p1" name text :=
  ⟨_, (get?_insert ..).trans (if_pos rfl), Std.TreeMap.getElem?_insert_self⟩

theorem holdsTexts_ofText (name text : String) : (ofText name text).HoldsTexts name := by
  intro key record v stored field
  rw [ofText, get?_insert] at stored
  split at stored
  next =>
    cases stored
    cases Std.TreeMap.getElem?_insert_self.symm.trans field
    exact .inr ⟨text, rfl⟩
  next => cases stored

/-- If a stem with a wildcard is looked for, a text with other letters in the places of the
wildcards is found. -/
theorem unwild_of_finds {p : Predicate} {stem : List Char} {form other : List Char → Prop}
    (finds : ∀ store : Store, store.HoldsTexts name → store.Finds p name form)
    (formed : form (Text.unwild stem))
    (wanted : ∀ store : Store, store.HoldsTexts name → store.Finds p name other) :
    other (Text.unwild stem) := by
  let text := String.ofList (Text.unwild stem)
  have letters : text.toList = Text.unwild stem := String.toList_ofList
  have texts := holdsTexts_ofText name text
  rw [← letters] at formed ⊢
  exact (finds _ texts).form_of_form (wanted _ texts) (hasText_ofText name text) formed

/-- Looking for a stem finds the texts of which a beginning, or a stretch, fits the stem as a
pattern. That is every text that begins with the stem or includes it, in capitals or small
letters, and it is no other text in any store just if the stem has no wildcard. -/
theorem finds_stem (name stem : String) :
    (∀ store : Store, store.HoldsTexts name →
        store.Finds (.startsWith name stem) name (Begins (Fits stem.toList)) ∧
          store.Finds (.contains name stem) name (Includes (Fits stem.toList))) ∧
      (∀ text, Begins (Spells stem.toList) text → Begins (Fits stem.toList) text) ∧
      (∀ text, Includes (Spells stem.toList) text → Includes (Fits stem.toList) text) ∧
      ((∀ store : Store, store.HoldsTexts name →
          store.Finds (.startsWith name stem) name (Begins (Spells stem.toList))) ↔
        Plain stem.toList) ∧
      ((∀ store : Store, store.HoldsTexts name →
          store.Finds (.contains name stem) name (Includes (Spells stem.toList))) ↔
        Plain stem.toList) := by
  have first : ∀ store : Store, store.HoldsTexts name →
      store.Finds (.startsWith name stem) name (Begins (Fits stem.toList)) :=
    fun _ texts => texts.finds_startsWith stem
  have within : ∀ store : Store, store.HoldsTexts name →
      store.Finds (.contains name stem) name (Includes (Fits stem.toList)) :=
    fun _ texts => texts.finds_contains stem
  have begins : Begins (Fits stem.toList) (Text.unwild stem.toList) :=
    ⟨_, List.prefix_rfl, Text.fits_unwild stem.toList⟩
  refine ⟨fun store texts => ⟨first store texts, within store texts⟩,
    fun _ => Begins.mono fun _ => Text.fits_of_spells,
    fun _ => Includes.mono fun _ => Text.fits_of_spells, ⟨fun wanted => ?_, fun plain => ?_⟩,
    ⟨fun wanted => ?_, fun plain => ?_⟩⟩
  · exact Text.plain_of_includes_unwild (unwild_of_finds first begins wanted).includes
  · rwa [Text.fits_eq_spells plain] at first
  · exact Text.plain_of_includes_unwild (unwild_of_finds within begins.includes wanted)
  · rwa [Text.fits_eq_spells plain] at within

/-- A stem without wildcards is looked for in letters of either case. -/
theorem finds_stem_capitals :
    let store := ofText "name" "Grace"
    store.HoldsTexts "name" ∧ Plain "gR".toList ∧
      store.Finds (.startsWith "name" "gR") "name" (Begins (Spells "gR".toList)) ∧
      store.Finds (.contains "name" "gR") "name" (Includes (Spells "gR".toList)) := by
  intro store
  have texts := holdsTexts_ofText "name" "Grace"
  have plain : Plain "gR".toList := by decide
  obtain ⟨_, _, _, begins, includes⟩ := finds_stem "name" "gR"
  exact ⟨texts, plain, begins.mpr plain store texts, includes.mpr plain store texts⟩

/-- A percent sign is looked for, and a text without one is found. -/
theorem finds_percent :
    let store := ofText "name" "500 apples"
    store.HoldsTexts "name" ∧
      (∃ answer, store.query (.startsWith "name" "50%") = .ok answer ∧ "p1" ∈ answer) ∧
      ¬ store.Finds (.startsWith "name" "50%") "name" (Begins (Spells "50%".toList)) := by
  intro store
  have texts := holdsTexts_ofText "name" "500 apples"
  have has := hasText_ofText "name" "500 apples"
  have finds := texts.finds_startsWith "50%"
  have fits : Begins (Fits "50%".toList) "500 apples".toList :=
    ⟨"50".toList, ⟨"0 apples".toList, rfl⟩, Text.completes_agree_iff.mp (by decide)⟩
  have answered : ∃ answer, store.query (.startsWith "name" "50%") = .ok answer ∧
      "p1" ∈ answer := by
    obtain ⟨answer, success, told⟩ := finds
    exact ⟨answer, success, (told "p1").mpr ⟨_, has, fits⟩⟩
  refine ⟨texts, answered, fun wanted => ?_⟩
  obtain ⟨head, first, spells⟩ := finds.form_of_form wanted has fits
  have taken := List.prefix_iff_eq_take.mp first
  rw [spells.length_eq] at taken
  subst taken
  simp [Spells, Text.SameButCase, Text.IsCapitalOf] at spells

end Store

end RecordFilter
