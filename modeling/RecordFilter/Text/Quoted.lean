/-!
# Quoted text

Text between two marks, in which the closing mark itself is written twice. Reading
undoes writing, whatever follows the closing mark, as long as it is not that mark.
-/

set_option autoImplicit false

namespace RecordFilter.Text

/-- Writes a mark twice wherever it stands, and all else once. -/
def double (mark : Char) : List Char → List Char
  | [] => []
  | c :: rest => if c = mark then mark :: mark :: double mark rest else c :: double mark rest

/-- The text between an opening and a closing mark, the closing mark doubled inside. -/
def enclose (opening closing : Char) (text : String) : String :=
  String.ofList (opening :: double closing text.toList ++ [closing])

/-- Reads up to the closing mark, a doubled mark standing for one. The result is the
text and what follows the closing mark; `none` means that the mark never comes. -/
def readDoubled (mark : Char) : List Char → Option (List Char × List Char)
  | [] => none
  | [c] => if c = mark then some ([], []) else none
  | c :: d :: rest =>
    if c = mark then
      if d = mark then
        (readDoubled mark rest).map fun (text, after) => (mark :: text, after)
      else some ([], d :: rest)
    else (readDoubled mark (d :: rest)).map fun (text, after) => (c :: text, after)

/-- Something of the text is used up: the closing mark at least. -/
theorem length_lt_of_readDoubled {mark : Char} {source text after : List Char}
    (closed : readDoubled mark source = some (text, after)) : after.length < source.length := by
  fun_induction readDoubled mark source generalizing text after with
  | case1 => simp at closed
  | case2 => simp_all
  | case3 => simp at closed
  | case4 rest ih =>
      obtain ⟨⟨content, left⟩, found, equal⟩ := Option.map_eq_some_iff.mp closed
      obtain ⟨_, rfl⟩ := Prod.mk.inj equal
      have := ih found
      simp only [List.length_cons]
      omega
  | case5 => simp_all
  | case6 c d rest _ ih =>
      obtain ⟨⟨content, left⟩, found, equal⟩ := Option.map_eq_some_iff.mp closed
      obtain ⟨_, rfl⟩ := Prod.mk.inj equal
      exact Nat.lt_succ_of_lt (ih found)

def doubledWidth (mark : Char) (text : List Char) : Nat :=
  text.length + text.count mark

theorem length_double (mark : Char) (text : List Char) :
    (double mark text).length = doubledWidth mark text := by
  induction text with
  | nil => rfl
  | cons c rest ih =>
      unfold doubledWidth at ih ⊢
      by_cases same : c = mark <;> simp [double, same, ih] <;> omega

/-- What was written doubled and closed is read back, together with what follows. -/
theorem readDoubled_double (mark : Char) (text after : List Char)
    (ends : after.head? ≠ some mark) :
    readDoubled mark (double mark text ++ mark :: after) = some (text, after) := by
  induction text with
  | nil =>
      cases after with
      | nil => simp [double, readDoubled]
      | cons d rest =>
          have different : d ≠ mark := by simpa using ends
          simp [double, readDoubled, different]
  | cons c rest ih =>
      by_cases same : c = mark
      · simp [double, same, readDoubled, ih]
      · cases written : double mark rest ++ mark :: after with
        | nil => simp at written
        | cons d tail =>
            rw [written] at ih
            simp [double, same, readDoubled, written, ih]

end RecordFilter.Text
