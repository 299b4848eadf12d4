import Mathlib.Data.List.Forall2
import RecordFilter.Proofs.Text.Pattern

/-!
# Beginnings and fragments

A stem with a run behind it fits the texts of which a beginning fits the stem, and a stem
between two runs those of which some stretch does. A text always fits itself as a pattern; the
texts that fit a stem are its spellings in capitals and small letters, and no others, if the
stem is plain: it holds neither a percent sign nor an underscore.
-/

set_option autoImplicit false

namespace RecordFilter.Text

def Begins (form : List Char → Prop) (text : List Char) : Prop :=
  ∃ head, head <+: text ∧ form head

def Includes (form : List Char → Prop) (text : List Char) : Prop :=
  ∃ piece, piece <:+: text ∧ form piece

/-- The text is the stem but for the case of ASCII letters. -/
def Spells (stem text : List Char) : Prop :=
  List.Forall₂ SameButCase text stem

/-- No character of the stem stands for others in a pattern. -/
def Plain (stem : List Char) : Prop :=
  ∀ c ∈ stem, c ≠ '%' ∧ c ≠ '_'

instance (stem : List Char) : Decidable (Plain stem) :=
  List.decidableBAll _ stem

section Forms

variable {form other : List Char → Prop} {text : List Char}

theorem Begins.mono (weaker : ∀ head, form head → other head) (begins : Begins form text) :
    Begins other text := by
  obtain ⟨head, first, formed⟩ := begins
  exact ⟨head, first, weaker head formed⟩

theorem Includes.mono (weaker : ∀ piece, form piece → other piece)
    (included : Includes form text) : Includes other text := by
  obtain ⟨piece, within, formed⟩ := included
  exact ⟨piece, within, weaker piece formed⟩

theorem Begins.includes (begins : Begins form text) : Includes form text := by
  obtain ⟨head, first, formed⟩ := begins
  exact ⟨head, first.isInfix, formed⟩

end Forms

/-! ## Patterns put together -/

theorem fits_append {first second text : List Char} :
    Fits (first ++ second) text ↔
      ∃ head rest, text = head ++ rest ∧ Fits first head ∧ Fits second rest := by
  induction first generalizing text with
  | nil => simp [Fits]
  | cons d first ih =>
      rw [List.cons_append]
      by_cases run : d = '%'
      · subst run
        rw [fits_anyRun]
        constructor
        · rintro ⟨late, ⟨skipped, rfl⟩, fits⟩
          obtain ⟨head, rest, rfl, firstFits, secondFits⟩ := ih.mp fits
          exact ⟨skipped ++ head, rest, (List.append_assoc ..).symm,
            fits_anyRun.mpr ⟨head, List.suffix_append .., firstFits⟩, secondFits⟩
        · rintro ⟨head, rest, rfl, firstFits, secondFits⟩
          obtain ⟨late, ⟨skipped, rfl⟩, lateFits⟩ := fits_anyRun.mp firstFits
          refine ⟨late ++ rest, ⟨skipped, (List.append_assoc ..).symm⟩, ?_⟩
          exact ih.mpr ⟨late, rest, rfl, lateFits, secondFits⟩
      · rw [fits_cons run]
        constructor
        · rintro ⟨c, later, rfl, same, fits⟩
          obtain ⟨head, rest, rfl, firstFits, secondFits⟩ := ih.mp fits
          exact ⟨c :: head, rest, rfl, (fits_cons run).mpr ⟨c, head, rfl, same, firstFits⟩,
            secondFits⟩
        · rintro ⟨head, rest, rfl, firstFits, secondFits⟩
          obtain ⟨c, later, rfl, same, laterFits⟩ := (fits_cons run).mp firstFits
          exact ⟨c, later ++ rest, rfl, same, ih.mpr ⟨later, rest, rfl, laterFits, secondFits⟩⟩

theorem fits_run (text : List Char) : Fits ['%'] text :=
  fits_anyRun.mpr ⟨[], List.nil_suffix, rfl⟩

theorem fits_stem_run {stem text : List Char} :
    Fits (stem ++ ['%']) text ↔ Begins (Fits stem) text := by
  rw [fits_append]
  constructor
  · rintro ⟨head, rest, rfl, fits, _⟩
    exact ⟨head, List.prefix_append .., fits⟩
  · rintro ⟨head, ⟨rest, rfl⟩, fits⟩
    exact ⟨head, rest, rfl, fits, fits_run rest⟩

theorem fits_run_stem_run {stem text : List Char} :
    Fits ('%' :: (stem ++ ['%'])) text ↔ Includes (Fits stem) text := by
  rw [fits_anyRun]
  constructor
  · rintro ⟨late, suffix, fits⟩
    obtain ⟨piece, first, pieceFits⟩ := fits_stem_run.mp fits
    exact ⟨piece, first.isInfix.trans suffix.isInfix, pieceFits⟩
  · rintro ⟨piece, ⟨skipped, rest, rfl⟩, fits⟩
    refine ⟨piece ++ rest, ⟨skipped, (List.append_assoc ..).symm⟩, ?_⟩
    exact fits_stem_run.mpr ⟨piece, List.prefix_append .., fits⟩

/-! ## Stems as patterns -/

theorem fits_of_spells {stem text : List Char} (spells : Spells stem text) : Fits stem text := by
  induction spells with
  | nil => rfl
  | @cons c d text stem same _ ih =>
      by_cases run : d = '%'
      · subst run
        exact fits_anyRun.mpr ⟨text, List.suffix_cons .., ih⟩
      · exact (fits_cons run).mpr
          ⟨c, text, rfl, Bool.or_eq_true_iff.mpr (.inr (sameLetter_iff.mpr same)), ih⟩

theorem spells_of_fits {stem text : List Char} (plain : Plain stem) (fits : Fits stem text) :
    Spells stem text := by
  induction stem generalizing text with
  | nil =>
      rw [Fits] at fits
      subst fits
      exact .nil
  | cons d stem ih =>
      obtain ⟨⟨single, letter⟩, others⟩ := List.forall_mem_cons.mp plain
      obtain ⟨c, rest, rfl, same, later⟩ := (fits_cons single).mp fits
      rw [decide_eq_false letter, Bool.false_or] at same
      exact .cons (sameLetter_iff.mp same) (ih others later)

theorem fits_eq_spells {stem : List Char} (plain : Plain stem) : Fits stem = Spells stem :=
  funext fun _ => propext ⟨spells_of_fits plain, fits_of_spells⟩

/-! ## Stems that are not plain -/

/-- A text that fits a stem and has a letter wherever the stem has a wildcard. -/
def unwild (stem : List Char) : List Char :=
  stem.map fun c => if c = '%' ∨ c = '_' then 'x' else c

theorem fits_unwild (stem : List Char) : Fits stem (unwild stem) := by
  induction stem with
  | nil => rfl
  | cons d stem ih =>
      rw [unwild, List.map_cons]
      by_cases run : d = '%'
      · subst run
        exact fits_anyRun.mpr ⟨unwild stem, List.suffix_cons .., ih⟩
      · refine (fits_cons run).mpr ⟨_, unwild stem, rfl, ?_, ih⟩
        by_cases any : d = '_'
        · simp [any]
        · simp [run, any, sameLetter_iff, SameButCase]

theorem length_unwild (stem : List Char) : (unwild stem).length = stem.length :=
  List.length_map ..

theorem plain_of_spells_unwild {stem : List Char} (spells : Spells stem (unwild stem)) :
    Plain stem := by
  induction stem with
  | nil => exact nofun
  | cons d stem ih =>
      rw [unwild, List.map_cons] at spells
      cases spells with
      | cons same others =>
          refine List.forall_mem_cons.mpr ⟨?_, ih others⟩
          rw [← not_or]
          intro wild
          rw [if_pos wild] at same
          rcases wild with rfl | rfl <;> simp [SameButCase, IsCapitalOf] at same

/-- A text as long as a stem has no other stretch of that length. -/
theorem plain_of_includes_unwild {stem : List Char}
    (included : Includes (Spells stem) (unwild stem)) : Plain stem := by
  obtain ⟨piece, within, spells⟩ := included
  have whole : piece = unwild stem :=
    within.eq_of_length (by rw [spells.length_eq, length_unwild])
  rw [whole] at spells
  exact plain_of_spells_unwild spells

end RecordFilter.Text
