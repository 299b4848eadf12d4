import RecordFilter.Text.Like
import Mathlib.Data.List.Infix

/-!
# Texts that fit a pattern

What it means that a text fits a pattern, by recursion over the pattern: a percent sign tries
every end of the text. The matcher tries the ends behind the last percent sign only. That is
enough, since a text of which some end fits the stretch up to the next percent sign can begin
with the first such end and leaves more of the text to the rest of the pattern.
-/

set_option autoImplicit false

namespace RecordFilter.Text

/-! ## The relation -/

/-- A capital and a small ASCII letter are one letter. -/
def IsCapitalOf (capital small : Char) : Prop :=
  'A' ≤ capital ∧ capital ≤ 'Z' ∧ small.toNat = capital.toNat + 32

/-- Two characters are the same but for the case of ASCII letters. -/
def SameButCase (c d : Char) : Prop :=
  c = d ∨ IsCapitalOf c d ∨ IsCapitalOf d c

/-- A text fits a pattern, each of them as its characters. -/
def Fits : (pattern text : List Char) → Prop
  | [], text => text = []
  | '%' :: pattern, text => ∃ rest, rest <:+ text ∧ Fits pattern rest
  | '_' :: pattern, text => ∃ c rest, text = c :: rest ∧ Fits pattern rest
  | d :: pattern, text => ∃ c rest, text = c :: rest ∧ SameButCase c d ∧ Fits pattern rest

theorem toNat_toLower (c : Char) :
    c.toLower.toNat = if 65 ≤ c.toNat ∧ c.toNat ≤ 90 then c.toNat + 32 else c.toNat := by
  have bounds : c.val ≥ 'A'.val ∧ c.val ≤ 'Z'.val ↔ 65 ≤ c.toNat ∧ c.toNat ≤ 90 := Iff.rfl
  unfold Char.toLower
  split
  next capital =>
    have small : c.val.toNat ≤ 90 := (bounds.mp capital).2
    rw [if_pos (bounds.mp capital)]
    show (c.val + 32).toNat = c.val.toNat + 32
    rw [UInt32.toNat_add, Nat.mod_eq_of_lt]
    · rfl
    · show c.val.toNat + 32 < 2 ^ 32
      omega
  next other => rw [if_neg (bounds.not.mp other)]

theorem sameLetter_iff {c d : Char} : sameLetter c d = true ↔ SameButCase c d := by
  have lowered : sameLetter c d = true ↔ c.toLower.toNat = d.toLower.toNat := by
    rw [sameLetter, decide_eq_true_iff, Char.toNat_inj]
  have same : c = d ↔ c.toNat = d.toNat := Char.toNat_inj.symm
  have capital : ∀ {c : Char}, 'A' ≤ c ∧ c ≤ 'Z' ↔ 65 ≤ c.toNat ∧ c.toNat ≤ 90 := Iff.rfl
  rw [lowered, toNat_toLower, toNat_toLower, SameButCase, IsCapitalOf, IsCapitalOf, same,
    ← and_assoc, ← and_assoc, capital, capital]
  split <;> split <;> omega

theorem fits_anyRun {pattern text : List Char} :
    Fits ('%' :: pattern) text ↔ ∃ rest, rest <:+ text ∧ Fits pattern rest := by
  rw [Fits]

theorem fits_cons {d : Char} (single : d ≠ '%') {pattern text : List Char} :
    Fits (d :: pattern) text ↔
      ∃ c rest, text = c :: rest ∧ (d = '_' || sameLetter c d) = true ∧ Fits pattern rest := by
  by_cases any : d = '_'
  · subst any
    simp [Fits]
  · rw [Fits]
    · simp [any, sameLetter_iff]
    · exact single
    · exact any

theorem fits_nil_right {pattern : List Char} :
    Fits pattern [] ↔ pattern.all (· = '%') = true := by
  induction pattern with
  | nil => simp [Fits]
  | cons d pattern ih =>
      by_cases run : d = '%'
      · subst run
        simp [fits_anyRun, ih]
      · simp [fits_cons run, run]

/-- A run of any length may be longer. -/
theorem Fits.anyRun_of_suffix {pattern text rest : List Char} (fits : Fits ('%' :: pattern) rest)
    (suffix : rest <:+ text) : Fits ('%' :: pattern) text := by
  obtain ⟨last, lastSuffix, lastFits⟩ := fits_anyRun.mp fits
  exact fits_anyRun.mpr ⟨last, lastSuffix.trans suffix, lastFits⟩

/-! ## One stretch -/

/-- What a comparison leaves to be fitted, if it does not fail. -/
def Agreement.left? : Agreement → Option (List Char × List Char)
  | ended pattern => some (pattern, [])
  | anyRun pattern text => some ('%' :: pattern, text)
  | different => none

section Stretch

variable {text pattern left rest : List Char}

theorem fits_of_agree (reached : (agree text pattern).left? = some (left, rest))
    (fits : Fits left rest) : Fits pattern text := by
  induction text generalizing pattern with
  | nil =>
      cases reached
      exact fits
  | cons c text ih =>
      cases pattern with
      | nil => cases reached
      | cons d pattern =>
          rw [agree] at reached
          split at reached
          next run =>
            subst run
            cases reached
            exact fits
          next single =>
            split at reached
            next same => exact (fits_cons single).mpr ⟨c, text, rfl, same, ih reached⟩
            next => cases reached

/-- If some end of the text fits the pattern, then what the comparison of the whole text
leaves fits: the stretch is as long, and behind it there is no less of the text. -/
theorem fits_left_of_agree (reached : (agree text pattern).left? = some (left, rest))
    {late : List Char} (suffix : late <:+ text) (fits : Fits pattern late) : Fits left rest := by
  induction text generalizing pattern late with
  | nil =>
      cases reached
      rwa [List.suffix_nil.mp suffix] at fits
  | cons c text ih =>
      cases pattern with
      | nil => cases reached
      | cons d pattern =>
          rw [agree] at reached
          split at reached
          next run =>
            subst run
            cases reached
            exact fits.anyRun_of_suffix suffix
          next single =>
            split at reached
            next =>
              obtain ⟨first, later, rfl, _, laterFits⟩ := (fits_cons single).mp fits
              have laterSuffix : later <:+ text := by
                rcases List.suffix_cons_iff.mp suffix with whole | within
                · rw [(List.cons.inj whole).2]
                · exact (List.suffix_cons first later).trans within
              exact ih reached laterSuffix laterFits
            next => cases reached

theorem not_fits_of_agree (failed : (agree text pattern).left? = none) : ¬ Fits pattern text := by
  induction text generalizing pattern with
  | nil => cases failed
  | cons c text ih =>
      cases pattern with
      | nil => simp [Fits]
      | cons d pattern =>
          rw [agree] at failed
          split at failed
          next => cases failed
          next single =>
            intro fits
            obtain ⟨first, later, same, equal, laterFits⟩ := (fits_cons single).mp fits
            cases same
            rw [if_pos equal] at failed
            exact ih failed laterFits

variable (reached : (agree text pattern).left? = some (left, rest))

include reached

theorem fits_iff_of_agree : Fits pattern text ↔ Fits left rest :=
  ⟨fits_left_of_agree reached List.suffix_rfl, fits_of_agree reached⟩

/-- If some end of the text fits, then the whole of it does. -/
theorem exists_fits_iff_of_agree :
    (∃ late, late <:+ text ∧ Fits pattern late) ↔ Fits left rest := by
  constructor
  · rintro ⟨late, suffix, fits⟩
    exact fits_left_of_agree reached suffix fits
  · intro fits
    exact ⟨text, List.suffix_rfl, fits_of_agree reached fits⟩

end Stretch

/-! ## All stretches -/

theorem matchesSome_iff {pattern text : List Char} :
    matchesSome pattern text = true ↔ Fits ('%' :: pattern) text := by
  rw [fits_anyRun]
  fun_induction matchesSome pattern text with
  | case1 pattern text left stopped =>
      rw [← fits_nil_right]
      exact (exists_fits_iff_of_agree (by rw [stopped]; rfl)).symm
  | case2 pattern text left rest stopped ih =>
      rw [ih, ← fits_anyRun]
      exact (exists_fits_iff_of_agree (by rw [stopped]; rfl)).symm
  | case3 pattern failed => cases failed
  | case4 pattern c later failed ih =>
      have misfit : ¬ Fits pattern (c :: later) := not_fits_of_agree (by rw [failed]; rfl)
      rw [ih]
      constructor
      · rintro ⟨late, suffix, fits⟩
        exact ⟨late, suffix.trans (List.suffix_cons c later), fits⟩
      · rintro ⟨late, suffix, fits⟩
        rcases List.suffix_cons_iff.mp suffix with rfl | within
        · exact absurd fits misfit
        · exact ⟨late, within, fits⟩

/-- Whether the matcher accepts what a comparison leaves. -/
def Agreement.completes : Agreement → Bool
  | ended left => left.all (· = '%')
  | anyRun left rest => matchesSome left rest
  | different => false

theorem completes_agree_iff {pattern text : List Char} :
    (agree text pattern).completes = true ↔ Fits pattern text := by
  cases stopped : agree text pattern with
  | ended left =>
      rw [Agreement.completes, ← fits_nil_right]
      exact (fits_iff_of_agree (by rw [stopped]; rfl)).symm
  | anyRun left rest =>
      rw [Agreement.completes, matchesSome_iff]
      exact (fits_iff_of_agree (by rw [stopped]; rfl)).symm
  | different =>
      rw [Agreement.completes]
      simpa using not_fits_of_agree (by rw [stopped]; rfl)

/-- The matcher decides whether a text fits a pattern: no match is lost by trying the ends
behind the last percent sign only. -/
theorem like_iff_fits (text pattern : String) :
    like text pattern = true ↔ Fits pattern.toList text.toList :=
  completes_agree_iff

/-- The place where the second stretch fits is found behind a first attempt. -/
example : like "aXbaYbc" "%b_%B_" = true := by
  cbv

end RecordFilter.Text
