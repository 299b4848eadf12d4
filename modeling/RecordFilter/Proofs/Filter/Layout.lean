import RecordFilter.Proofs.Filter.Positions
import RecordFilter.Proofs.Filter.Spelling
import Mathlib.Data.List.TakeWhile

/-!
# Layout of a text

A text without a fault is blanks and tokens and nothing else: each token takes a stretch of
the text, the blanks before it are the gap to the token in front, and the end of the text
comes behind the last gap. What a token takes does not depend on what follows, so the
stretch alone is read as that token.
-/

set_option autoImplicit false

namespace RecordFilter

/-- What was read up to the closing mark is the doubled text. -/
theorem Text.eq_of_readDoubled {mark : Char} {source text after : List Char}
    (closed : readDoubled mark source = some (text, after)) :
    source = double mark text ++ mark :: after := by
  fun_induction readDoubled mark source generalizing text after with
  | case1 => cases closed
  | case2 =>
      cases closed
      rfl
  | case3 => cases closed
  | case4 rest ih =>
      obtain ⟨⟨content, left⟩, found, equal⟩ := Option.map_eq_some_iff.mp closed
      cases equal
      simp [double, ← ih found]
  | case5 d rest =>
      cases closed
      rfl
  | case6 c d rest other ih =>
      obtain ⟨⟨content, left⟩, found, equal⟩ := Option.map_eq_some_iff.mp closed
      cases equal
      simp [double, other, ← ih found]

namespace Filter

/-! ## A token on its own -/

/-- A text begins with the given characters, and a reading takes these and leaves the rest. -/
structure Lexeme.Cuts (lexeme : Lexeme) (taken text : List Char) : Prop where
  whole : text = taken ++ lexeme.rest
  width : taken.length = lexeme.width

/-- What takes a character at least takes the first one. -/
theorem Lexeme.Cuts.exists_cons {lexeme : Lexeme} {c : Char} {taken text : List Char}
    (cut : lexeme.Cuts taken (c :: text)) (positive : 0 < lexeme.width) :
    ∃ more, taken = c :: more := by
  cases taken with
  | nil =>
      rw [← cut.width] at positive
      cases positive
  | cons first more =>
      obtain ⟨rfl, _⟩ := List.cons_eq_cons.mp cut.whole
      exact ⟨more, rfl⟩

/-- The reading of a text that ends where this one stops. -/
def Lexeme.alone (lexeme : Lexeme) : Lexeme :=
  { lexeme with rest := [] }

/-- A sign takes as many characters as it is wide, and nothing behind them counts. -/
theorem readSign?_alone {text : List Char} {lexeme : Lexeme}
    (found : readSign? text = some lexeme) :
    ∃ taken, lexeme.Cuts taken text ∧ readSign? taken = some lexeme.alone := by
  refine ⟨text.take lexeme.width, ?_⟩
  unfold readSign? at found
  split at found
  all_goals first
    | cases found
      exact ⟨⟨rfl, rfl⟩, rfl⟩
    | cases found

theorem takeWhile_alone {inside : Char → Bool} {run : List Char}
    (all : ∀ c ∈ run, inside c = true) :
    run.takeWhile inside = run ∧ run.dropWhile inside = [] := by
  have ended : ∀ c ∈ ([] : List Char).head?, inside c = false := nofun
  have alone := takeWhile_run all ended
  rwa [List.append_nil] at alone

/-- Only an exclamation mark begins a sign and need not be one. -/
theorem eq_exclamation_of_readSign?_eq_none {c : Char} {text : List Char}
    (unread : readSign? (c :: text) = none) (member : c ∈ signCharacters) : c = '!' := by
  apply Decidable.byContradiction
  intro other
  unfold readSign? at unread
  split at unread
  case h_14 => simp_all [signCharacters]
  all_goals cases unread

theorem readNumber_whole {whole rest : List Char} (digits : ∀ c ∈ whole, c.isDigit = true)
    (ends : ∀ c ∈ rest.head?, c.isDigit = false) (plain : fraction? rest = none) :
    readNumber (whole ++ rest) = ⟨.number ⟨whole, none⟩, whole.length, rest⟩ := by
  obtain ⟨taken, dropped⟩ := takeWhile_run digits ends
  simp [readNumber, taken, dropped, plain]

theorem readNumber_decimal {whole decimals rest : List Char} {digit : Char}
    (digits : ∀ c ∈ whole, c.isDigit = true)
    (decimalDigits : ∀ c ∈ digit :: decimals, c.isDigit = true)
    (ends : ∀ c ∈ rest.head?, c.isDigit = false) :
    readNumber (whole ++ '.' :: digit :: decimals ++ rest) =
      ⟨.number ⟨whole, some (digit :: decimals)⟩, whole.length + 1 + (digit :: decimals).length,
        rest⟩ := by
  obtain ⟨first, others⟩ := List.forall_mem_cons.mp decimalDigits
  have stops : ∀ c ∈ ('.' :: digit :: (decimals ++ rest)).head?, c.isDigit = false := by simp
  obtain ⟨taken, dropped⟩ := takeWhile_run digits stops
  obtain ⟨decimalsTaken, decimalsDropped⟩ := takeWhile_run others ends
  simp [readNumber, taken, dropped, fraction?, first, decimalsTaken, decimalsDropped]

theorem head?_dropWhile_isDigit (text : List Char) :
    ∀ c ∈ (text.dropWhile Char.isDigit).head?, c.isDigit = false := by
  have outside := List.head?_dropWhile_not Char.isDigit text
  intro c head
  rw [Option.mem_def.mp head] at outside
  simpa using outside

theorem readNumber_alone (text : List Char) :
    ∃ taken, (readNumber text).Cuts taken text ∧ readNumber taken = (readNumber text).alone := by
  have whole : text.takeWhile Char.isDigit ++ text.dropWhile Char.isDigit = text :=
    List.takeWhile_append_dropWhile
  have digits : ∀ c ∈ text.takeWhile Char.isDigit, c.isDigit = true :=
    fun c member => List.mem_takeWhile_imp member
  have ends := head?_dropWhile_isDigit text
  have ended : ∀ c ∈ ([] : List Char).head?, c.isDigit = false := nofun
  generalize text.takeWhile Char.isDigit = run at whole digits
  generalize text.dropWhile Char.isDigit = rest at whole ends
  subst whole
  cases fractional : fraction? rest with
  | none =>
      have alone := readNumber_whole digits ended rfl
      rw [List.append_nil] at alone
      rw [readNumber_whole digits ends fractional]
      exact ⟨run, ⟨rfl, rfl⟩, alone⟩
  | some fraction =>
      obtain ⟨digit, after, rfl, isDigit, rfl⟩ := fraction?_eq_some fractional
      have decimals : ∀ c ∈ digit :: after.takeWhile Char.isDigit, c.isDigit = true :=
        List.forall_mem_cons.mpr ⟨isDigit, fun c member => List.mem_takeWhile_imp member⟩
      have split : run ++ '.' :: digit :: after =
          run ++ '.' :: digit :: after.takeWhile Char.isDigit ++ after.dropWhile Char.isDigit := by
        simp
      have alone := readNumber_decimal digits decimals ended
      rw [List.append_nil] at alone
      rw [split, readNumber_decimal digits decimals (head?_dropWhile_isDigit after)]
      refine ⟨run ++ '.' :: digit :: after.takeWhile Char.isDigit, ⟨rfl, ?_⟩, alone⟩
      simp only [List.length_append, List.length_cons]
      omega

theorem readQuotedName?_append {name rest : List Char} (inner : ∀ c ∈ name, c ≠ '\x60') :
    readQuotedName? (name ++ '\x60' :: rest) =
      some ⟨.identifier (String.ofList name), name.length + 2, rest⟩ := by
  have unmarked : ∀ c ∈ name, decide (c ≠ '\x60') = true :=
    fun c member => decide_eq_true (inner c member)
  have stops : ∀ c ∈ ('\x60' :: rest).head?, decide (c ≠ '\x60') = false := by simp
  obtain ⟨taken, dropped⟩ := takeWhile_run unmarked stops
  simp only [readQuotedName?, taken, dropped]

theorem readQuotedName?_alone {text : List Char} {lexeme : Lexeme}
    (found : readQuotedName? text = some lexeme) :
    ∃ more, lexeme.Cuts ('\x60' :: more) ('\x60' :: text) ∧
      readQuotedName? more = some lexeme.alone := by
  have whole : text.takeWhile (· ≠ '\x60') ++ text.dropWhile (· ≠ '\x60') = text :=
    List.takeWhile_append_dropWhile
  have inner : ∀ c ∈ text.takeWhile (· ≠ '\x60'), c ≠ '\x60' :=
    fun c member => by simpa using List.mem_takeWhile_imp member
  have closes := List.head?_dropWhile_not (· ≠ '\x60') text
  generalize text.takeWhile (· ≠ '\x60') = name at whole inner
  generalize text.dropWhile (· ≠ '\x60') = left at whole closes
  subst whole
  cases left with
  | nil =>
      rw [List.append_nil, readQuotedName?, (takeWhile_alone _).2] at found
      · cases found
      · exact fun c member => decide_eq_true (inner c member)
  | cons mark rest =>
      obtain rfl : mark = '\x60' := by simpa using closes
      rw [readQuotedName?_append inner] at found
      cases found
      refine ⟨name ++ ['\x60'], ⟨by simp, by simp⟩, ?_⟩
      exact readQuotedName?_append inner

/-- The token at the beginning of a text is read from what it takes alone. -/
theorem readOther_alone {c : Char} {text : List Char} {lexeme : Lexeme}
    (found : readOther c text = .ok lexeme) :
    ∃ more, lexeme.Cuts (c :: more) (c :: text) ∧ readOther c more = .ok lexeme.alone := by
  unfold readOther at found ⊢
  split at found
  next => cases found
  split at found
  next exclamation quoted =>
    split at found
    next content rest closed =>
      cases found
      have source := Text.eq_of_readDoubled closed
      have alone := Text.readDoubled_double c content [] nofun
      refine ⟨Text.double c content ++ [c], ⟨?_, ?_⟩, ?_⟩
      · simp [source]
      · simp [Text.length_double]
      · simp only [exclamation, quoted, alone, ↓reduceIte]
        rfl
    next => cases found
  split at found
  next exclamation unquoted accent =>
    subst accent
    split at found
    next named =>
      cases found
      obtain ⟨more, cut, alone⟩ := readQuotedName?_alone named
      refine ⟨more, cut, ?_⟩
      simp only [unquoted, alone, ↓reduceIte]
      rfl
    next => cases found
  split at found
  next exclamation unquoted unnamed begins =>
    cases found
    have inner : ∀ d ∈ text.takeWhile continuesWord, continuesWord d = true :=
      fun d member => List.mem_takeWhile_imp member
    obtain ⟨taken, dropped⟩ := takeWhile_alone inner
    refine ⟨text.takeWhile continuesWord, ⟨by simp, rfl⟩, ?_⟩
    simp only [exclamation, unquoted, unnamed, begins, taken, dropped, ↓reduceIte]
    rfl
  split at found
  next exclamation unquoted unnamed unbegun digit =>
    cases found
    obtain ⟨taken, cut, alone⟩ := readNumber_alone (c :: text)
    obtain ⟨more, rfl⟩ := cut.exists_cons (readNumber_takes digit text).positive
    refine ⟨more, cut, ?_⟩
    simp only [exclamation, unquoted, unnamed, unbegun, digit, alone, Bool.false_eq_true,
      ↓reduceIte]
  next => cases found

theorem readToken_alone {c : Char} {text : List Char} {lexeme : Lexeme}
    (found : readToken c text = .ok lexeme) :
    ∃ more, lexeme.Cuts (c :: more) (c :: text) ∧ readToken c more = .ok lexeme.alone := by
  unfold readToken at found
  split at found
  next sign =>
    cases found
    obtain ⟨taken, cut, alone⟩ := readSign?_alone sign
    obtain ⟨more, rfl⟩ := cut.exists_cons (readSign?_takes sign).positive
    refine ⟨more, cut, ?_⟩
    rw [readToken, alone]
  next unread =>
    obtain ⟨more, cut, alone⟩ := readOther_alone found
    have other : c ∉ signCharacters := by
      intro member
      rw [eq_exclamation_of_readSign?_eq_none unread member, readOther, if_pos rfl] at found
      cases found
    refine ⟨more, cut, ?_⟩
    rw [readToken, readSign?_eq_none other]
    exact alone

/-! ## Stretches -/

/-- The blanks before a token, and what the token takes. -/
structure Stretch where
  gap : List Char
  lexeme : List Char
  token : Token

namespace Stretch

def chars (stretch : Stretch) : List Char :=
  stretch.gap ++ stretch.lexeme

/-- The text that stretches cover. -/
def text (stretches : List Stretch) : List Char :=
  stretches.flatMap chars

/-- The tokens of stretches that follow each other from an offset on. -/
def place (position : Nat) : List Stretch → List PlacedToken
  | [] => []
  | stretch :: later =>
    ⟨stretch.token, position + stretch.gap.length⟩ ::
      place (position + stretch.chars.length) later

theorem map_token_place (position : Nat) (stretches : List Stretch) :
    (place position stretches).map (·.token) = stretches.map (·.token) := by
  induction stretches generalizing position with
  | nil => rfl
  | cons stretch later ih => rw [place, List.map_cons, List.map_cons, ih]

/-- Stretches that the lexer reads one after the other: it skips the gap of each, takes its
token from what is left of the text and stops behind its lexeme. The end of the text is the
last of them and takes nothing. -/
inductive Covers : List Stretch → Prop where
  | last {gap : List Char} (blank : ∀ c ∈ gap, Text.isBlank c = true) :
      Covers [⟨gap, [], .endOfText⟩]
  | next {gap more : List Char} {c : Char} {token : Token} {later : List Stretch}
      (blank : ∀ d ∈ gap, Text.isBlank d = true) (visible : Text.isBlank c = false)
      (reads : readToken c (more ++ text later) =
        .ok ⟨token, (c :: more).length, text later⟩) :
      Covers later → Covers (⟨gap, c :: more, token⟩ :: later)

/-- More blanks in front widen the first gap. -/
theorem Covers.blank {c : Char} {stretches : List Stretch} (blank : Text.isBlank c = true)
    (covers : Covers stretches) (position : Nat) :
    ∃ wider, Covers wider ∧ text wider = c :: text stretches ∧
      place position wider = place (position + 1) stretches := by
  cases covers with
  | @last gap others =>
      refine ⟨[⟨c :: gap, [], .endOfText⟩], .last (List.forall_mem_cons.mpr ⟨blank, others⟩),
        rfl, ?_⟩
      simp only [place, List.length_cons]
      congr 2
      omega
  | @next gap more d token later others visible reads covered =>
      refine ⟨⟨c :: gap, d :: more, token⟩ :: later,
        .next (List.forall_mem_cons.mpr ⟨blank, others⟩) visible reads covered, rfl, ?_⟩
      have same : position + (c :: gap).length = position + 1 + gap.length := by
        rw [List.length_cons]
        omega
      simp only [place, chars, List.length_append, ← Nat.add_assoc, same]

end Stretch

/-- The stretches of a text that is read to its end, by induction on the run of the lexer. -/
theorem exists_covers {position stop : Nat} {text : List Char}
    (ended : (lexFrom position text).stop = .ok stop) :
    ∃ stretches, Stretch.Covers stretches ∧ Stretch.text stretches = text ∧
      Stretch.place position stretches =
        (lexFrom position text).tokens ++ [⟨.endOfText, stop⟩] := by
  fun_induction lexFrom position text with
  | case1 position =>
      cases ended
      exact ⟨[⟨[], [], .endOfText⟩], .last (List.forall_mem_nil _), rfl, rfl⟩
  | case2 position c text blank ih =>
      obtain ⟨stretches, covers, rfl, placed⟩ := ih ended
      obtain ⟨wider, widened, whole, same⟩ := covers.blank blank position
      exact ⟨wider, widened, whole, same.trans placed⟩
  | case3 => cases ended
  | case4 position c text visible lexeme found others ih =>
      obtain ⟨later, covers, rest, placed⟩ := ih ended
      obtain ⟨more, cut, _⟩ := readToken_alone found
      have source : text = more ++ Stretch.text later := by
        rw [rest]
        exact (List.cons_eq_cons.mp cut.whole).2
      have seen : Text.isBlank c = false := by simpa using visible
      have reads : readToken c (more ++ Stretch.text later) =
          .ok ⟨lexeme.token, (c :: more).length, Stretch.text later⟩ := by
        rw [← source, found, cut.width, rest]
      refine ⟨⟨[], c :: more, lexeme.token⟩ :: later,
        .next (List.forall_mem_nil _) seen reads covers, ?_, ?_⟩
      · rw [source]
        rfl
      · have width : position + (c :: more).length = position + lexeme.width := by
          rw [cut.width]
        simp only [Stretch.place, Stretch.chars, List.nil_append, width, placed]
        rfl

theorem tokenize_eq_ok {text : String} {placed : List PlacedToken} :
    tokenize text = .ok placed ↔
      ∃ stop, (lex text).stop = .ok stop ∧ (lex text).tokens ++ [⟨.endOfText, stop⟩] = placed := by
  unfold tokenize
  cases (lex text).stop <;> simp [Except.map]

theorem Stretch.Covers.tokenize_lexeme {stretches : List Stretch} (covers : Covers stretches)
    {stretch : Stretch} (member : stretch ∈ stretches) :
    (∀ c ∈ stretch.gap, Text.isBlank c = true) ∧
      if stretch.token = .endOfText then stretch.lexeme = []
      else tokenize (String.ofList stretch.lexeme) =
        .ok [⟨stretch.token, 0⟩, ⟨.endOfText, stretch.lexeme.length⟩] := by
  induction covers with
  | last blank =>
      obtain rfl := List.mem_singleton.mp member
      exact ⟨blank, by simp⟩
  | @next gap more c token later blank visible reads covered ih =>
      rcases List.mem_cons.mp member with rfl | further
      · refine ⟨blank, ?_⟩
        rw [if_neg (readToken_takes reads).inner]
        obtain ⟨same, cut, alone⟩ := readToken_alone reads
        obtain rfl : more = same :=
          List.append_cancel_right (List.cons_eq_cons.mp cut.whole).2
        apply tokenize_eq_ok.mpr
        refine ⟨(c :: more).length, ?_⟩
        rw [lex, String.toList_ofList, lexFrom_token visible alone]
        simp [Lexeme.alone, lexFrom]
      · exact ih further

/-- A text that is read to its end is gaps of blanks and lexemes in turn. Each token stands
where its lexeme begins, behind the tokens before it; the end of the text is the last token
and no other one, and stands at the length of the text. A lexeme alone is read as its token. -/
theorem tokenize_layout {text : String} {placed : List PlacedToken}
    (success : tokenize text = .ok placed) :
    placed.Pairwise (·.position < ·.position) ∧
      (∃ inner, placed = inner ++ [⟨.endOfText, text.length⟩] ∧
        ∀ token ∈ inner, token.token ≠ .endOfText) ∧
      ∃ stretches, Stretch.Covers stretches ∧
        text.toList = stretches.flatMap (fun stretch => stretch.gap ++ stretch.lexeme) ∧
        placed = Stretch.place 0 stretches ∧
        ∀ stretch ∈ stretches, (∀ c ∈ stretch.gap, Text.isBlank c = true) ∧
          if stretch.token = .endOfText then stretch.lexeme = []
          else tokenize (String.ofList stretch.lexeme) =
            .ok [⟨stretch.token, 0⟩, ⟨.endOfText, stretch.lexeme.length⟩] := by
  obtain ⟨stop, ended, rfl⟩ := tokenize_eq_ok.mp success
  have spans := lex_spans text
  obtain rfl := spans.stops stop ended
  obtain ⟨stretches, covers, whole, same⟩ := exists_covers ended
  exact ⟨pairwise_position_append_end ended, ⟨(lex text).tokens, rfl, spans.inner⟩, stretches,
    covers, whole.symm, same.symm, fun stretch member => covers.tokenize_lexeme member⟩

/-- Tokens that touch each other: a sign of two characters, a quote that is written twice, a
point in a number and one behind it, and a name in grave accents. -/
theorem tokenize_layout_touching :
    tokenize " a1<='it''s'12.5.\x60x y\x60  " =
        .ok [⟨.identifier "a1", 1⟩, ⟨.symbol .lessOrEqual, 3⟩, ⟨.string "it's", 5⟩,
          ⟨.number ⟨['1', '2'], some ['5']⟩, 12⟩, ⟨.symbol .dot, 16⟩, ⟨.identifier "x y", 17⟩,
          ⟨.endOfText, 24⟩] ∧
      ∃ stretches, Stretch.Covers stretches ∧
        " a1<='it''s'12.5.\x60x y\x60  ".toList =
          stretches.flatMap (fun stretch => stretch.gap ++ stretch.lexeme) ∧
        stretches.map (·.token) = [.identifier "a1", .symbol .lessOrEqual, .string "it's",
          .number ⟨['1', '2'], some ['5']⟩, .symbol .dot, .identifier "x y", .endOfText] := by
  have success : tokenize " a1<='it''s'12.5.\x60x y\x60  " =
      .ok [⟨.identifier "a1", 1⟩, ⟨.symbol .lessOrEqual, 3⟩, ⟨.string "it's", 5⟩,
        ⟨.number ⟨['1', '2'], some ['5']⟩, 12⟩, ⟨.symbol .dot, 16⟩, ⟨.identifier "x y", 17⟩,
        ⟨.endOfText, 24⟩] := by
    decide +kernel
  obtain ⟨_, _, stretches, covers, whole, same, _⟩ := tokenize_layout success
  refine ⟨success, stretches, covers, whole, ?_⟩
  rw [← Stretch.map_token_place 0, ← same]
  rfl

end Filter
end RecordFilter
