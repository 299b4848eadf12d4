/-!
# Patterns

In a pattern a percent sign stands for any run of characters and an underscore for any
one; every other character stands for itself, an ASCII letter in either case. After a
percent sign the first place where the stretch up to the next percent sign fits is
enough: what fits later fits behind it as well, so no earlier percent sign is tried again.
-/

set_option autoImplicit false

namespace RecordFilter.Text

/-- Whether two characters are the same but for the case of ASCII letters. -/
def sameLetter (a b : Char) : Bool :=
  a.toLower = b.toLower

inductive Agreement where
  /-- The text is used up; a part of the pattern may be left. -/
  | ended (pattern : List Char)
  /-- A percent sign is reached; the pattern behind it and the text from there are left. -/
  | anyRun (pattern text : List Char)
  /-- The next characters differ, or the pattern is used up before the text. -/
  | different

/-- Compares character by character up to a percent sign. -/
def agree : (text pattern : List Char) → Agreement
  | [], pattern => .ended pattern
  | _ :: _, [] => .different
  | c :: text, d :: pattern =>
    if d = '%' then .anyRun pattern (c :: text)
    else if d = '_' || sameLetter c d then agree text pattern
    else .different

theorem length_lt_of_agree {text pattern left rest : List Char}
    (reached : agree text pattern = .anyRun left rest) : left.length < pattern.length := by
  induction text generalizing pattern with
  | nil => simp [agree] at reached
  | cons c text ih =>
      cases pattern with
      | nil => simp [agree] at reached
      | cons d pattern =>
          rw [agree] at reached
          split at reached
          · obtain ⟨rfl, _⟩ := Agreement.anyRun.inj reached
            simp
          · split at reached
            · exact Nat.lt_succ_of_lt (ih reached)
            · simp at reached

/-- Whether the pattern behind a percent sign matches some end of the text. -/
def matchesSome (pattern text : List Char) : Bool :=
  match _reached : agree text pattern with
  | .ended left => left.all (· = '%')
  | .anyRun left rest => matchesSome left rest
  | .different =>
    match text with
    | [] => false
    | _ :: later => matchesSome pattern later
termination_by (pattern.length, text.length)
decreasing_by
  · exact Prod.Lex.left _ _ (length_lt_of_agree (by assumption))
  · exact Prod.Lex.right _ (by simp)

def like (text pattern : String) : Bool :=
  match agree text.toList pattern.toList with
  | .ended left => left.all (· = '%')
  | .anyRun left rest => matchesSome left rest
  | .different => false

end RecordFilter.Text
