import Mathlib.Algebra.Group.Int.Defs
import Mathlib.Algebra.Group.Nat.Defs
import RecordFilter.Filter.Parser
import RecordFilter.Predicate.Builder
import RecordFilter.Proofs.Filter.Spelling

/-!
# Whole numbers in filters

A run of digits of any length is one token, with or without leading zeros, and it is read as
the number that it denotes: a signed word, an unsigned word where only that is wide enough, or
no value at all. A minus sign in front of it is a token of its own, and there the range ends one
number later.
-/

set_option autoImplicit false

namespace RecordFilter

/-! ## Ranges -/

theorem exists_int64? {n : Int} (low : -2 ^ 63 ≤ n) (high : n < 2 ^ 63) :
    ∃ word, int64? n = some word ∧ word.toInt = n := by
  have word := Int64.toInt_ofInt_of_le (n := n) (by omega) (by omega)
  exact ⟨_, int64?_eq_some_iff.mpr word, word⟩

theorem int64?_eq_none {n : Int} (outside : n < -2 ^ 63 ∨ 2 ^ 63 ≤ n) : int64? n = none := by
  apply Option.eq_none_iff_forall_ne_some.mpr
  intro word found
  have same := int64?_eq_some_iff.mp found
  have low := word.le_toInt
  have high := word.toInt_lt
  omega

theorem exists_uint64? {n : Nat} (high : n < 2 ^ 64) :
    ∃ word, uint64? n = some word ∧ word.toNat = n := by
  have word := UInt64.toNat_ofNat_of_lt' high
  exact ⟨_, uint64?_eq_some_iff.mpr (congrArg _ word), word⟩

theorem uint64?_eq_none {n : Nat} (outside : 2 ^ 64 ≤ n) : uint64? n = none := by
  apply Option.eq_none_iff_forall_ne_some.mpr
  intro word found
  have same := uint64?_eq_some_iff.mp found
  have high := word.toNat_lt
  omega

namespace Filter

/-! ## Tokens -/

theorem lexFrom_space (position : Nat) (text : List Char) :
    lexFrom position (' ' :: text) = lexFrom (position + 1) text := by
  rw [lexFrom, if_pos (by decide)]

/-- A field, the sign of equality, and whatever stands behind them. -/
theorem lexFrom_equation (text : List Char) :
    lexFrom 0 ('x' :: ' ' :: '=' :: ' ' :: text) =
      ⟨⟨.identifier "x", 0⟩ :: ⟨.symbol .equal, 2⟩ :: (lexFrom 4 text).tokens,
        (lexFrom 4 text).stop⟩ := by
  have alone : ∀ d ∈ ([] : List Char), continuesWord d = true := nofun
  have ends : ∀ d ∈ (' ' :: '=' :: ' ' :: text).head?, continuesWord d = false := by
    intro d first
    cases first
    decide
  have name : readToken 'x' (' ' :: '=' :: ' ' :: text) =
      .ok ⟨.identifier "x", 1, ' ' :: '=' :: ' ' :: text⟩ :=
    readToken_word (by decide +kernel) alone ends
  have sign : readToken '=' (' ' :: text) = .ok ⟨.symbol .equal, 1, ' ' :: text⟩ := rfl
  rw [lexFrom_token (by decide) name, lexFrom_space, lexFrom_token (by decide) sign,
    lexFrom_space]
  rfl

theorem lexFrom_minus (position : Nat) (text : List Char) :
    lexFrom position ('-' :: text) =
      ⟨⟨.symbol .minus, position⟩ :: (lexFrom (position + 1) text).tokens,
        (lexFrom (position + 1) text).stop⟩ := by
  have sign : readToken '-' text = .ok ⟨.symbol .minus, 1, text⟩ := rfl
  rw [lexFrom_token (by decide) sign]

theorem lexFrom_digits {digits : List Char} (written : digits ≠ [])
    (decimal : ∀ c ∈ digits, c.isDigit = true) (position : Nat) :
    lexFrom position digits =
      ⟨[⟨.number ⟨digits, none⟩, position⟩], .ok (position + digits.length)⟩ := by
  cases digits with
  | nil => exact absurd rfl written
  | cons d others =>
      have number : readToken d (others ++ []) =
          .ok ⟨.number ⟨d :: others, none⟩, (d :: others).length, []⟩ :=
        readToken_number decimal nofun
      rw [List.append_nil] at number
      have visible := isBlank_of_isDigit (decimal d List.mem_cons_self)
      rw [lexFrom_token visible number, lexFrom]

/-! ## Filters -/

theorem readPlaced_number (state : State) (subject : Subject) (comparison : Comparison)
    (signed : Bool) (literal : NumberLiteral) (position : Nat) :
    readPlaced (state.expecting (.comparand subject comparison signed))
        ⟨.number literal, position⟩ =
      match literal.value? signed with
      | some value => .ok (state.completing (subject.compare comparison value))
      | none =>
        .error ⟨position, .outOfRange ((if signed then "-" else "") ++ literal.text)⟩ := by
  simp only [readPlaced, State.advance, State.expecting, literalPart]
  cases literal.value? signed <;> rfl

/-- What becomes of a literal, bare or behind a minus sign, that stands at an offset. -/
def outcome (signed : Bool) (digits : String) (position : Nat) : Except SyntaxError Predicate :=
  match NumberLiteral.value? ⟨digits.toList, none⟩ signed with
  | some value => .ok (.equalTo "x" value)
  | none => .error ⟨position, .outOfRange ((if signed then "-" else "") ++ digits)⟩

/-- The literal decides what becomes of a filter that has been read up to its comparand. -/
theorem parseTokens_number {before : List PlacedToken} {signed : Bool}
    (reached : before.foldlM readPlaced .start =
      .ok (State.start.expecting (.comparand ⟨.value, some "x"⟩ .equal signed)))
    (digits : String) (position stop : Nat) :
    parseTokens (before ++ [⟨.number ⟨digits.toList, none⟩, position⟩]) stop =
      outcome signed digits position := by
  rw [parseTokens, List.foldlM_append, reached]
  show (readPlaced _ _ >>= pure) >>= _ = _
  rw [bind_pure, readPlaced_number, outcome]
  cases NumberLiteral.value? ⟨digits.toList, none⟩ signed with
  | some value => rfl
  | none => simp [NumberLiteral.text, bind, Except.bind]

theorem parse_equation {text digits : String} {sign : List PlacedToken} {signed : Bool}
    {position stop : Nat}
    (lexed : lexFrom 4 text.toList =
      ⟨sign ++ [⟨.number ⟨digits.toList, none⟩, position⟩], .ok stop⟩)
    (reached : (⟨.identifier "x", 0⟩ :: ⟨.symbol .equal, 2⟩ :: sign).foldlM readPlaced .start =
      .ok (State.start.expecting (.comparand ⟨.value, some "x"⟩ .equal signed))) :
    parse ("x = " ++ text) = outcome signed digits position := by
  have tokens : lex ("x = " ++ text) =
      ⟨⟨.identifier "x", 0⟩ :: ⟨.symbol .equal, 2⟩ :: sign ++
        [⟨.number ⟨digits.toList, none⟩, position⟩], .ok stop⟩ := by
    rw [lex, String.toList_append]
    show lexFrom 0 ('x' :: ' ' :: '=' :: ' ' :: text.toList) = _
    rw [lexFrom_equation, lexed]
    rfl
  rw [parse, tokens]
  exact parseTokens_number reached digits position stop

section Digits

variable {digits : String} (written : digits ≠ "")
  (decimal : ∀ c ∈ digits.toList, c.isDigit = true)

include written decimal

theorem parse_bare : parse ("x = " ++ digits) = outcome false digits 4 := by
  have some : digits.toList ≠ [] := by simpa using written
  have lexed : lexFrom 4 digits.toList = ⟨[] ++ [⟨.number ⟨digits.toList, none⟩, 4⟩], _⟩ :=
    lexFrom_digits some decimal 4
  exact parse_equation lexed rfl

theorem parse_signed : parse ("x = -" ++ digits) = outcome true digits 5 := by
  have some : digits.toList ≠ [] := by simpa using written
  have lexed : lexFrom 4 ("-" ++ digits).toList =
      ⟨[⟨.symbol .minus, 4⟩] ++ [⟨.number ⟨digits.toList, none⟩, 5⟩],
        .ok (5 + digits.toList.length)⟩ := by
    rw [String.toList_append]
    show lexFrom 4 ('-' :: digits.toList) = _
    rw [lexFrom_minus, lexFrom_digits some decimal]
    rfl
  have split : "x = -" ++ digits = "x = " ++ ("-" ++ digits) := by
    rw [← String.append_assoc]
    rfl
  rw [split]
  exact parse_equation lexed rfl

end Digits

end Filter

open RecordFilter.Filter

/-- A comparison with a whole number, of any digits and behind a minus sign or not, holds the
number that the digits denote if a word of the language is that number, and is refused where
the digits begin if none is. -/
theorem Predicate.ofText_whole {digits : String} (written : digits ≠ "")
    (decimal : ∀ c ∈ digits.toList, c.isDigit = true) :
    let n := Nat.ofDigitChars 10 digits.toList 0
    (n < 2 ^ 63 → ∃ word : Int64, word.toInt = n ∧
        ofText ("x = " ++ digits) = .ok (equalTo "x" (.int64 word))) ∧
      (2 ^ 63 ≤ n → n < 2 ^ 64 → ∃ word : UInt64, word.toNat = n ∧
        ofText ("x = " ++ digits) = .ok (equalTo "x" (.uint64 word))) ∧
      (2 ^ 64 ≤ n →
        ofText ("x = " ++ digits) = .error (.parse ⟨4, .outOfRange digits⟩)) ∧
      (n ≤ 2 ^ 63 → ∃ word : Int64, word.toInt = -n ∧
        ofText ("x = -" ++ digits) = .ok (equalTo "x" (.int64 word))) ∧
      (2 ^ 63 < n →
        ofText ("x = -" ++ digits) = .error (.parse ⟨5, .outOfRange ("-" ++ digits)⟩)) := by
  intro n
  have bare : NumberLiteral.value? ⟨digits.toList, none⟩ false =
      ((int64? n).map .int64 <|> (uint64? n).map .uint64) := rfl
  have signed : NumberLiteral.value? ⟨digits.toList, none⟩ true = (int64? (-n)).map .int64 := rfl
  rw [ofText, ofText, parse_bare written decimal, parse_signed written decimal, outcome, outcome,
    bare, signed]
  refine ⟨fun small => ?_, fun low high => ?_, fun large => ?_, fun small => ?_, fun large => ?_⟩
  · obtain ⟨word, found, same⟩ := exists_int64? (n := n) (by omega) (by omega)
    refine ⟨word, same, ?_⟩
    rw [found]
    rfl
  · obtain ⟨word, found, same⟩ := exists_uint64? high
    refine ⟨word, same, ?_⟩
    rw [int64?_eq_none (.inr (by omega)), found]
    rfl
  · rw [int64?_eq_none (.inr (by omega)), uint64?_eq_none large]
    rfl
  · obtain ⟨word, found, same⟩ := exists_int64? (n := -n) (by omega) (by omega)
    refine ⟨word, same, ?_⟩
    rw [found]
    rfl
  · rw [int64?_eq_none (.inl (by omega))]
    rfl

/-- One number behind the largest signed word, behind two zeros: an unsigned word, and with the
sign the least signed word. -/
theorem Predicate.ofText_whole_edge :
    Nat.ofDigitChars 10 "009223372036854775808".toList 0 = 2 ^ 63 ∧
      (∃ word : UInt64, word.toNat = 2 ^ 63 ∧
        ofText ("x = " ++ "009223372036854775808") = .ok (equalTo "x" (.uint64 word))) ∧
      ∃ word : Int64, word.toInt = -2 ^ 63 ∧
        ofText ("x = -" ++ "009223372036854775808") = .ok (equalTo "x" (.int64 word)) := by
  have denotes : Nat.ofDigitChars 10 "009223372036854775808".toList 0 = 2 ^ 63 := by
    decide +kernel
  have written : "009223372036854775808" ≠ "" := by decide
  have decimal : "009223372036854775808".toList.all (·.isDigit) = true := by decide +kernel
  obtain ⟨_, unsigned, _, signed, _⟩ := ofText_whole written (List.all_eq_true.mp decimal)
  rw [denotes] at unsigned signed
  exact ⟨denotes, unsigned (by decide) (by decide), signed (by decide)⟩

end RecordFilter
