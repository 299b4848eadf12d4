import RecordFilter.Filter.Lexer

/-!
# Places of tokens

Each token is as wide as the text that it takes, so the offsets of the tokens of a text
ascend, and the reading of a text without a fault stops at its length.
-/

set_option autoImplicit false

namespace RecordFilter

theorem Text.length_of_readDoubled {mark : Char} {source text after : List Char}
    (closed : readDoubled mark source = some (text, after)) :
    source.length = doubledWidth mark text + 1 + after.length := by
  unfold doubledWidth
  fun_induction readDoubled mark source generalizing text after with
  | case1 => cases closed
  | case2 => simp_all
  | case3 => cases closed
  | case4 rest ih =>
      obtain ⟨⟨content, left⟩, found, equal⟩ := Option.map_eq_some_iff.mp closed
      cases equal
      simp only [List.length_cons, List.count_cons_self, ih found]
      omega
  | case5 c d rest =>
      cases closed
      simp [Nat.add_comm]
  | case6 c d rest other ih =>
      obtain ⟨⟨content, left⟩, found, equal⟩ := Option.map_eq_some_iff.mp closed
      cases equal
      rw [List.length_cons, ih found, List.length_cons, List.count_cons_of_ne other]
      omega

namespace Filter

theorem length_takeWhile_add {α : Type} (p : α → Bool) (items : List α) :
    (items.takeWhile p).length + (items.dropWhile p).length = items.length := by
  rw [← List.length_append, List.takeWhile_append_dropWhile]

/-! ## One token -/

/-- A token takes the beginning of a text, and it is not the end of one. -/
structure Lexeme.Takes (lexeme : Lexeme) (text : List Char) : Prop where
  positive : 0 < lexeme.width
  whole : lexeme.width + lexeme.rest.length = text.length
  inner : lexeme.token ≠ .endOfText

theorem wordToken_ne_endOfText (word : List Char) : wordToken word ≠ .endOfText := by
  unfold wordToken
  split <;> exact nofun

theorem readSign?_takes {text : List Char} {lexeme : Lexeme}
    (found : readSign? text = some lexeme) : lexeme.Takes text := by
  unfold readSign? at found
  split at found
  all_goals first
    | cases found
      exact ⟨Nat.succ_pos _, Nat.add_comm .., nofun⟩
    | cases found

theorem fraction?_eq_some {rest fraction : List Char} (found : fraction? rest = some fraction) :
    ∃ digit after, rest = '.' :: digit :: after ∧ digit.isDigit = true ∧
      fraction = digit :: after.takeWhile Char.isDigit := by
  unfold fraction? at found
  split at found
  next digit after =>
    split at found
    next isDigit =>
      cases found
      exact ⟨digit, after, rfl, isDigit, rfl⟩
    next => cases found
  next => cases found

theorem readNumber_takes {c : Char} (digit : c.isDigit = true) (text : List Char) :
    (readNumber (c :: text)).Takes (c :: text) := by
  have lengths := length_takeWhile_add Char.isDigit (c :: text)
  have positive : 0 < ((c :: text).takeWhile Char.isDigit).length := by
    rw [List.takeWhile_cons_of_pos digit]
    exact Nat.succ_pos _
  unfold readNumber
  generalize c :: text = whole at lengths positive ⊢
  dsimp only
  split
  next fraction found =>
    obtain ⟨first, after, split, isDigit, rfl⟩ := fraction?_eq_some found
    have further := length_takeWhile_add Char.isDigit after
    rw [split] at lengths ⊢
    rw [List.length_cons, List.length_cons] at lengths
    rw [List.drop_one, List.tail_cons, List.dropWhile_cons_of_pos isDigit, List.length_cons]
    refine ⟨by dsimp only; omega, ?_, nofun⟩
    dsimp only
    omega
  next => exact ⟨positive, lengths, nofun⟩

theorem readQuotedName?_takes {text : List Char} {lexeme : Lexeme}
    (found : readQuotedName? text = some lexeme) : lexeme.Takes ('\x60' :: text) := by
  have lengths := length_takeWhile_add (· ≠ '\x60') text
  cases left : text.dropWhile (· ≠ '\x60') with
  | nil =>
      simp only [readQuotedName?, left] at found
      cases found
  | cons mark rest =>
      simp only [readQuotedName?, left] at found
      cases found
      rw [left, List.length_cons] at lengths
      refine ⟨Nat.succ_pos _, ?_, nofun⟩
      rw [List.length_cons]
      dsimp only
      omega

theorem readOther_takes {c : Char} {text : List Char} {lexeme : Lexeme}
    (found : readOther c text = .ok lexeme) : lexeme.Takes (c :: text) := by
  unfold readOther at found
  split at found
  next => cases found
  split at found
  next =>
    split at found
    next content rest closed =>
      cases found
      have length := Text.length_of_readDoubled closed
      refine ⟨Nat.succ_pos _, ?_, nofun⟩
      rw [List.length_cons, length]
      dsimp only
      omega
    next => cases found
  split at found
  next quoted =>
    subst quoted
    split at found
    next named =>
      cases found
      exact readQuotedName?_takes named
    next => cases found
  split at found
  next =>
    cases found
    have lengths := length_takeWhile_add continuesWord text
    refine ⟨Nat.succ_pos _, ?_, wordToken_ne_endOfText _⟩
    rw [List.length_cons]
    dsimp only
    omega
  split at found
  next digit =>
    cases found
    exact readNumber_takes digit text
  next => cases found

theorem readToken_takes {c : Char} {text : List Char} {lexeme : Lexeme}
    (found : readToken c text = .ok lexeme) : lexeme.Takes (c :: text) := by
  unfold readToken at found
  split at found
  next sign =>
    cases found
    exact readSign?_takes sign
  next => exact readOther_takes found

/-! ## All tokens -/

/-- The tokens stand between two offsets, each behind the one before it, and a reading
without a fault goes on to the second offset. -/
structure Lexed.Spans (lexed : Lexed) (first last : Nat) : Prop where
  ascending : lexed.tokens.Pairwise (·.position < ·.position)
  inside : ∀ placed ∈ lexed.tokens, first ≤ placed.position ∧ placed.position < last
  inner : ∀ placed ∈ lexed.tokens, placed.token ≠ .endOfText
  stops : ∀ stop, lexed.stop = .ok stop → stop = last

theorem Lexed.Spans.cons {others : Lexed} {token : Token} {position next last : Nat}
    (later : others.Spans next last) (ascends : position < next) (fits : next ≤ last)
    (inner : token ≠ .endOfText) :
    Lexed.Spans ⟨⟨token, position⟩ :: others.tokens, others.stop⟩ position last where
  ascending := by
    refine List.pairwise_cons.mpr ⟨fun placed member => ?_, later.ascending⟩
    exact Nat.lt_of_lt_of_le ascends (later.inside placed member).1
  inside := by
    refine List.forall_mem_cons.mpr ⟨⟨Nat.le_refl _, Nat.lt_of_lt_of_le ascends fits⟩, ?_⟩
    intro placed member
    obtain ⟨low, high⟩ := later.inside placed member
    exact ⟨Nat.le_trans (Nat.le_of_lt ascends) low, high⟩
  inner := List.forall_mem_cons.mpr ⟨inner, later.inner⟩
  stops := later.stops

theorem lexFrom_spans (position : Nat) (text : List Char) :
    (lexFrom position text).Spans position (position + text.length) := by
  fun_induction lexFrom position text with
  | case1 position => exact ⟨.nil, nofun, nofun, fun stop ended => (Except.ok.inj ended).symm⟩
  | case2 position c text _ ih =>
      have length : position + (c :: text).length = position + 1 + text.length := by
        rw [List.length_cons]
        omega
      rw [length]
      refine ⟨ih.ascending, fun placed member => ?_, ih.inner, ih.stops⟩
      obtain ⟨low, high⟩ := ih.inside placed member
      exact ⟨Nat.le_of_succ_le low, high⟩
  | case3 position c text _ fault _ => exact ⟨.nil, nofun, nofun, nofun⟩
  | case4 position c text _ lexeme found _ ih =>
      have takes := readToken_takes found
      rw [← takes.whole, ← Nat.add_assoc]
      exact ih.cons (Nat.lt_add_of_pos_right takes.positive) (Nat.le_add_right ..) takes.inner

theorem lex_spans (text : String) : (lex text).Spans 0 text.length := by
  have spans := lexFrom_spans 0 text.toList
  rwa [Nat.zero_add, String.length_toList] at spans

theorem pairwise_position_append_end {text : String} {stop : Nat}
    (lexed : (lex text).stop = .ok stop) :
    List.Pairwise (fun first second : PlacedToken => first.position < second.position)
      ((lex text).tokens ++ [⟨.endOfText, stop⟩]) := by
  have spans := lex_spans text
  refine List.pairwise_append.mpr ⟨spans.ascending, List.pairwise_singleton .., ?_⟩
  intro placed member last only
  rw [List.mem_singleton.mp only, spans.stops stop lexed]
  exact (spans.inside placed member).2

end Filter

end RecordFilter
