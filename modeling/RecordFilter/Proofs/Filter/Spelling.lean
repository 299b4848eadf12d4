import RecordFilter.Filter.Lexer
import RecordFilter.Filter.ParserState
import RecordFilter.Value.Printer

/-!
# Texts that spell tokens

A piece of text spells tokens in front of what follows it, if the lexer reads these tokens
from it and then goes on behind it. Signs spell themselves whatever follows; a word, a
number and a quoted string need something behind them that is no part of them.
-/

set_option autoImplicit false

namespace RecordFilter.Filter

/-- In front of the given rest, a text is read as the given tokens and no more. -/
def Spells (text : List Char) (tokens : List Token) (rest : List Char) : Prop :=
  ∀ position, ∃ placed next, placed.map PlacedToken.token = tokens ∧
    lexFrom position (text ++ rest) =
      ⟨placed ++ (lexFrom next rest).tokens, (lexFrom next rest).stop⟩

/-- What stands behind a literal or a name in a printed filter. -/
def Delimits (rest : List Char) : Prop :=
  ∀ c ∈ rest.head?, c = ' ' ∨ c = ')' ∨ c = ','

namespace Spells

variable {text more rest : List Char} {tokens others : List Token}

theorem nil : Spells [] [] rest :=
  fun position => ⟨[], position, rfl, rfl⟩

theorem append (first : Spells text tokens (more ++ rest)) (second : Spells more others rest) :
    Spells (text ++ more) (tokens ++ others) rest := by
  intro position
  obtain ⟨placed, middle, same, read⟩ := first position
  obtain ⟨later, last, otherSame, otherRead⟩ := second middle
  refine ⟨placed ++ later, last, by rw [List.map_append, same, otherSame], ?_⟩
  rw [List.append_assoc, read, otherRead, List.append_assoc]

/-- A text that is nothing but tokens. -/
theorem lex (spelled : Spells text tokens []) :
    ∃ placed stop, placed.map PlacedToken.token = tokens ∧
      Filter.lex (String.ofList text) = ⟨placed, .ok stop⟩ := by
  obtain ⟨placed, stop, same, read⟩ := spelled 0
  rw [List.append_nil] at read
  refine ⟨placed, stop, same, ?_⟩
  rw [Filter.lex, String.toList_ofList, read, lexFrom, List.append_nil]

end Spells

theorem Delimits.ends {rest : List Char} (delimits : Delimits rest) :
    ∀ c ∈ rest.head?, continuesWord c = false ∧ c.isDigit = false ∧ c ≠ '.' ∧ c ≠ '\x27' := by
  intro c head
  rcases delimits c head with rfl | rfl | rfl <;> decide

/-! ## Single tokens -/

theorem spells_blank {c : Char} {rest : List Char} (blank : Text.isBlank c = true) :
    Spells [c] [] rest := by
  intro position
  refine ⟨[], position + 1, rfl, ?_⟩
  rw [List.singleton_append, lexFrom, if_pos blank]
  rfl

theorem lexFrom_token {c : Char} {text : List Char} {lexeme : Lexeme}
    (visible : Text.isBlank c = false) (read : readToken c text = .ok lexeme) (position : Nat) :
    lexFrom position (c :: text) =
      ⟨⟨lexeme.token, position⟩ :: (lexFrom (position + lexeme.width) lexeme.rest).tokens,
        (lexFrom (position + lexeme.width) lexeme.rest).stop⟩ := by
  rw [lexFrom, if_neg (by simp [visible])]
  split
  next fault failed =>
    rw [read] at failed
    cases failed
  next other found =>
    rw [read] at found
    cases found
    rfl

theorem spells_token {c : Char} {more rest : List Char} {token : Token} {width : Nat}
    (visible : Text.isBlank c = false)
    (read : readToken c (more ++ rest) = .ok ⟨token, width, rest⟩) :
    Spells (c :: more) [token] rest := by
  intro position
  refine ⟨[⟨token, position⟩], position + width, rfl, ?_⟩
  rw [List.cons_append, lexFrom_token visible read]
  rfl

theorem spells_space (rest : List Char) : Spells [' '] [] rest :=
  spells_blank (by decide)

/-- A comparison sign is read whole in front of a blank. -/
theorem spells_comparison {comparison : Comparison} (ordering : comparison.isOrdering = true) :
    ∃ sign, comparison? sign = some comparison ∧
      ∀ rest, Spells comparison.symbol.toList [.symbol sign] (' ' :: rest) := by
  cases comparison with
  | equal => exact ⟨.equal, rfl, fun _ => spells_token (by decide) rfl⟩
  | notEqual => exact ⟨.notEqual, rfl, fun _ => spells_token (by decide) rfl⟩
  | greater => exact ⟨.greater, rfl, fun _ => spells_token (by decide) rfl⟩
  | greaterOrEqual => exact ⟨.greaterOrEqual, rfl, fun _ => spells_token (by decide) rfl⟩
  | less => exact ⟨.less, rfl, fun _ => spells_token (by decide) rfl⟩
  | lessOrEqual => exact ⟨.lessOrEqual, rfl, fun _ => spells_token (by decide) rfl⟩
  | oneOf | like => cases ordering

/-! ## Classes of characters -/

/-- The characters that signs begin with. -/
def signCharacters : List Char :=
  ['=', '<', '>', '!', '-', '(', ')', ',', '.']

theorem readSign?_eq_none {c : Char} {text : List Char} (other : c ∉ signCharacters) :
    readSign? (c :: text) = none := by
  unfold readSign?
  split
  all_goals first
    | rfl
    | next same =>
        obtain ⟨rfl, _⟩ := List.cons_eq_cons.mp same
        exact absurd (by decide) other

theorem isBlank_of_beginsWord {c : Char} (begins : beginsWord c = true) :
    Text.isBlank c = false := by
  have apart : ∀ range ∈ Text.blankRanges, ∀ point ∈ List.range' range.1 (range.2 + 1 - range.1),
      Text.covers Text.letterRanges point = false ∧ point ≠ '_'.toNat := by
    decide +kernel
  apply Bool.eq_false_iff.mpr
  intro blank
  obtain ⟨range, member, low, high⟩ := Text.exists_mem_of_covers blank
  obtain ⟨letter, underscore⟩ := apart range member c.toNat
    (List.mem_range'_1.mpr ⟨low, by omega⟩)
  rcases Bool.or_eq_true_iff.mp begins with isLetter | same
  · rw [Text.isLetter, letter] at isLetter
    cases isLetter
  · rw [of_decide_eq_true same] at underscore
    exact underscore rfl

def digits : List Char :=
  ['0', '1', '2', '3', '4', '5', '6', '7', '8', '9']

theorem mem_digits {c : Char} (digit : c.isDigit = true) : c ∈ digits := by
  obtain ⟨low, high⟩ : 48 ≤ c.toNat ∧ c.toNat ≤ 57 := Char.isDigit_iff_toNat.mp digit
  have point : c.toNat - 48 < 10 := by omega
  have found : ∀ n < 10, Char.ofNat (n + 48) ∈ digits := by decide
  have member := found _ point
  rwa [Nat.sub_add_cancel low, Char.ofNat_toNat] at member

/-- What holds of ten characters holds of every digit. -/
theorem of_isDigit {c : Char} {p : Char → Prop} [DecidablePred p] (digit : c.isDigit = true)
    (all : digits.all (decide <| p ·) = true) : p c :=
  of_decide_eq_true (List.all_eq_true.mp all c (mem_digits digit))

/-! ## Words -/

theorem continuesWord_of_beginsWord {c : Char} (begins : beginsWord c = true) :
    continuesWord c = true := by
  unfold beginsWord at begins
  unfold continuesWord
  rcases Bool.or_eq_true_iff.mp begins with letter | underscore
  · rw [letter, Bool.true_or, Bool.true_or]
  · rw [underscore, Bool.or_true]

/-- A run of characters of a class ends where a character of another class stands. -/
theorem takeWhile_run {inside : Char → Bool} {run rest : List Char}
    (all : ∀ c ∈ run, inside c = true) (ends : ∀ c ∈ rest.head?, inside c = false) :
    (run ++ rest).takeWhile inside = run ∧ (run ++ rest).dropWhile inside = rest := by
  rw [List.takeWhile_append_of_pos all, List.dropWhile_append_of_pos all]
  cases rest with
  | nil => simp
  | cons c rest =>
      have outside := ends c rfl
      simp [outside]

theorem readToken_word {c : Char} {word rest : List Char} (begins : beginsWord c = true)
    (continues : ∀ d ∈ word, continuesWord d = true)
    (ends : ∀ d ∈ rest.head?, continuesWord d = false) :
    readToken c (word ++ rest) = .ok ⟨wordToken (c :: word), word.length + 1, rest⟩ := by
  have other : ∀ mark, beginsWord mark = false → c ≠ mark := by
    rintro mark outside rfl
    rw [outside] at begins
    cases begins
  have sign : c ∉ signCharacters := by
    intro member
    have outside : signCharacters.all (!beginsWord ·) = true := by decide
    have plain := List.all_eq_true.mp outside c member
    rw [begins] at plain
    cases plain
  obtain ⟨taken, dropped⟩ := takeWhile_run continues ends
  rw [readToken, readSign?_eq_none sign]
  simp only [readOther, other '!' (by decide), other '\x27' (by decide), other '\x22' (by decide),
    other '\x60' (by decide), begins, taken, dropped, decide_false, Bool.or_self,
    Bool.false_eq_true, ↓reduceIte]

theorem spells_word {c : Char} {word rest : List Char} (begins : beginsWord c = true)
    (continues : ∀ d ∈ word, continuesWord d = true)
    (ends : ∀ d ∈ rest.head?, continuesWord d = false) :
    Spells (c :: word) [wordToken (c :: word)] rest :=
  spells_token (isBlank_of_beginsWord begins) (readToken_word begins continues ends)

theorem spells_keyword {c : Char} {word rest : List Char} {keyword : Keyword}
    (letters : (c :: word).all beginsWord = true)
    (reserved : Keyword.ofWord? (c :: word) = some keyword)
    (ends : ∀ d ∈ rest.head?, continuesWord d = false) :
    Spells (c :: word) [.keyword keyword] rest := by
  obtain ⟨begins, others⟩ := List.forall_mem_cons.mp (List.all_eq_true.mp letters)
  have spelled := spells_word begins
    (fun d member => continuesWord_of_beginsWord (others d member)) ends
  rwa [wordToken, reserved] at spelled

theorem spells_name {c : Char} {word rest : List Char} (begins : beginsWord c = true)
    (continues : ∀ d ∈ word, continuesWord d = true)
    (free : Keyword.ofWord? (c :: word) = none)
    (ends : ∀ d ∈ rest.head?, continuesWord d = false) :
    Spells (c :: word) [.identifier (String.ofList (c :: word))] rest := by
  have spelled := spells_word begins continues ends
  rwa [wordToken, free] at spelled

/-! ## Literals -/

theorem spells_string (text : String) {rest : List Char}
    (ends : rest.head? ≠ some '\x27') :
    Spells (Text.enclose '\x27' '\x27' text).toList [.string text] rest := by
  rw [Text.enclose, String.toList_ofList, List.cons_append]
  apply spells_token (by decide)
  rw [List.append_assoc, List.singleton_append]
  have read := Text.readDoubled_double '\x27' text.toList rest ends
  have sign : '\x27' ∉ signCharacters := by decide
  rw [readToken, readSign?_eq_none sign]
  simp only [readOther, read, String.ofList_toList, decide_true, Bool.true_or, ↓reduceIte]
  rfl

theorem fraction?_eq_none {rest : List Char} (ends : rest.head? ≠ some '.') :
    fraction? rest = none := by
  unfold fraction?
  split
  next => exact absurd rfl ends
  next => rfl

theorem isBlank_of_isDigit {c : Char} (digit : c.isDigit = true) : Text.isBlank c = false := by
  apply of_isDigit digit
  decide

theorem readToken_number {d : Char} {others rest : List Char}
    (all : ∀ c ∈ d :: others, c.isDigit = true)
    (ends : ∀ c ∈ rest.head?, c.isDigit = false ∧ c ≠ '.') :
    readToken d (others ++ rest) =
      .ok ⟨.number ⟨d :: others, none⟩, (d :: others).length, rest⟩ := by
  have digit := all d List.mem_cons_self
  obtain ⟨sign, exclamation, quote, doubleQuote, accent, letter⟩ :
      d ∉ signCharacters ∧ d ≠ '!' ∧ d ≠ '\x27' ∧ d ≠ '\x22' ∧ d ≠ '\x60' ∧
        beginsWord d = false := by
    apply of_isDigit digit
    decide
  obtain ⟨taken, dropped⟩ := takeWhile_run all fun c member => (ends c member).1
  have whole : fraction? rest = none :=
    fraction?_eq_none fun point => (ends '.' point).2 rfl
  rw [readToken, readSign?_eq_none sign]
  simp only [readOther, exclamation, quote, doubleQuote, accent, letter,
    digit, decide_false, Bool.or_self, Bool.false_eq_true, ↓reduceIte]
  rw [← List.cons_append, readNumber, taken, dropped]
  simp only [whole]

theorem spells_number {d : Char} {others rest : List Char}
    (all : ∀ c ∈ d :: others, c.isDigit = true)
    (ends : ∀ c ∈ rest.head?, c.isDigit = false ∧ c ≠ '.') :
    Spells (d :: others) [.number ⟨d :: others, none⟩] rest :=
  spells_token (isBlank_of_isDigit (all d List.mem_cons_self)) (readToken_number all ends)

end RecordFilter.Filter
