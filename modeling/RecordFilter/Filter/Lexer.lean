import RecordFilter.Filter.SyntaxError
import RecordFilter.Text.Blank
import RecordFilter.Text.Letter
import RecordFilter.Text.Numeral
import RecordFilter.Text.Quoted

/-!
# Reading tokens

A text is read from left to right. Blanks between tokens are skipped, each token takes as
many characters as it can, and the first place where no token can be read is a fault.
-/

set_option autoImplicit false

namespace RecordFilter.Filter

/-! ## One token -/

/-- A token at the beginning of a text, the number of characters it takes, and the text
behind it. -/
structure Lexeme where
  token : Token
  width : Nat
  rest : List Char

def beginsWord (c : Char) : Bool :=
  Text.isLetter c || c = '_'

def continuesWord (c : Char) : Bool :=
  Text.isLetter c || Text.isNumeral c || c = '_'

def wordToken (word : List Char) : Token :=
  match Keyword.ofWord? word with
  | some keyword => .keyword keyword
  | none => .identifier (String.ofList word)

/-- The sign at the beginning of a text, the longer of two that fit. -/
def readSign? : List Char → Option Lexeme
  | '=' :: '=' :: rest => some ⟨.symbol .equal, 2, rest⟩
  | '=' :: rest => some ⟨.symbol .equal, 1, rest⟩
  | '<' :: '=' :: rest => some ⟨.symbol .lessOrEqual, 2, rest⟩
  | '<' :: '>' :: rest => some ⟨.symbol .notEqual, 2, rest⟩
  | '<' :: rest => some ⟨.symbol .less, 1, rest⟩
  | '>' :: '=' :: rest => some ⟨.symbol .greaterOrEqual, 2, rest⟩
  | '>' :: rest => some ⟨.symbol .greater, 1, rest⟩
  | '!' :: '=' :: rest => some ⟨.symbol .notEqual, 2, rest⟩
  | '-' :: rest => some ⟨.symbol .minus, 1, rest⟩
  | '(' :: rest => some ⟨.symbol .leftParen, 1, rest⟩
  | ')' :: rest => some ⟨.symbol .rightParen, 1, rest⟩
  | ',' :: rest => some ⟨.symbol .comma, 1, rest⟩
  | '.' :: rest => some ⟨.symbol .dot, 1, rest⟩
  | _ => none

/-- The digits behind a point. Without a digit the point is none of a number. -/
def fraction? : List Char → Option (List Char)
  | '.' :: digit :: after =>
    if digit.isDigit then some (digit :: after.takeWhile Char.isDigit) else none
  | _ => none

def readNumber (text : List Char) : Lexeme :=
  let whole := text.takeWhile Char.isDigit
  let rest := text.dropWhile Char.isDigit
  match fraction? rest with
  | some fraction =>
    ⟨.number ⟨whole, some fraction⟩, whole.length + 1 + fraction.length,
      (rest.drop 1).dropWhile Char.isDigit⟩
  | none => ⟨.number ⟨whole, none⟩, whole.length, rest⟩

/-- The identifier behind a grave accent, up to the next one. -/
def readQuotedName? (text : List Char) : Option Lexeme :=
  let name := text.takeWhile (· ≠ '\x60')
  match text.dropWhile (· ≠ '\x60') with
  | [] => none
  | _ :: rest => some ⟨.identifier (String.ofList name), name.length + 2, rest⟩

/-- The token at the beginning of a text that is neither empty nor begins with a sign. -/
def readOther (c : Char) (text : List Char) : Except SyntaxFault Lexeme :=
  if c = '!' then .error .loneExclamation
  else if c = '\x27' || c = '\x22' then
    match Text.readDoubled c text with
    | some (content, rest) =>
      .ok ⟨.string (String.ofList content), Text.doubledWidth c content + 2, rest⟩
    | none => .error .unterminatedString
  else if c = '\x60' then
    match readQuotedName? text with
    | some lexeme => .ok lexeme
    | none => .error .unterminatedIdentifier
  else if beginsWord c then
    let others := text.takeWhile continuesWord
    .ok ⟨wordToken (c :: others), others.length + 1, text.dropWhile continuesWord⟩
  else if c.isDigit then .ok (readNumber (c :: text))
  else .error (.strayCharacter c)

def readToken (c : Char) (text : List Char) : Except SyntaxFault Lexeme :=
  match readSign? (c :: text) with
  | some lexeme => .ok lexeme
  | none => readOther c text

/-! ## Every token takes a character -/

theorem length_dropWhile_le {α : Type} (p : α → Bool) (items : List α) :
    (items.dropWhile p).length ≤ items.length :=
  (List.dropWhile_suffix p).length_le

theorem readSign?_length {text : List Char} {lexeme : Lexeme}
    (found : readSign? text = some lexeme) : lexeme.rest.length < text.length := by
  unfold readSign? at found
  split at found
  all_goals first
    | (obtain rfl := Option.some.inj found; simp only [List.length_cons]; omega)
    | simp at found

theorem readNumber_length {c : Char} {text : List Char} (digit : c.isDigit = true) :
    (readNumber (c :: text)).rest.length ≤ text.length := by
  have shorter := length_dropWhile_le Char.isDigit text
  have dropped : (c :: text).dropWhile Char.isDigit = text.dropWhile Char.isDigit := by
    simp [digit]
  simp only [readNumber, dropped]
  split
  · have further := length_dropWhile_le Char.isDigit ((text.dropWhile Char.isDigit).drop 1)
    rw [List.length_drop] at further
    exact Nat.le_trans further (by omega)
  · exact shorter

theorem readQuotedName?_length {text : List Char} {lexeme : Lexeme}
    (found : readQuotedName? text = some lexeme) : lexeme.rest.length ≤ text.length := by
  have shorter := length_dropWhile_le (· ≠ '\x60') text
  unfold readQuotedName? at found
  split at found
  · simp at found
  · next split =>
      obtain rfl := Option.some.inj found
      rw [split] at shorter
      exact Nat.le_of_lt shorter

theorem readOther_length {c : Char} {text : List Char} {lexeme : Lexeme}
    (found : readOther c text = .ok lexeme) : lexeme.rest.length ≤ text.length := by
  unfold readOther at found
  split at found
  · simp at found
  split at found
  · split at found
    · next closed =>
        obtain rfl := Except.ok.inj found
        exact Nat.le_of_lt (Text.length_lt_of_readDoubled closed)
    · simp at found
  split at found
  · split at found
    · next named =>
        obtain rfl := Except.ok.inj found
        exact readQuotedName?_length named
    · simp at found
  split at found
  · obtain rfl := Except.ok.inj found
    exact length_dropWhile_le _ _
  split at found
  · next digit =>
      obtain rfl := Except.ok.inj found
      exact readNumber_length digit
  · simp at found

theorem readToken_length {c : Char} {text : List Char} {lexeme : Lexeme}
    (found : readToken c text = .ok lexeme) : lexeme.rest.length ≤ text.length := by
  unfold readToken at found
  split at found
  · next sign =>
      obtain rfl := Except.ok.inj found
      exact Nat.le_of_lt_succ (readSign?_length sign)
  · exact readOther_length found

/-! ## All tokens -/

/-- The tokens that were read, and what ended the reading: the end of the text, with its
offset, or a fault. -/
structure Lexed where
  tokens : List PlacedToken
  stop : Except SyntaxError Nat

def lexFrom (position : Nat) (text : List Char) : Lexed :=
  match text with
  | [] => ⟨[], .ok position⟩
  | c :: text =>
    if Text.isBlank c then lexFrom (position + 1) text
    else
      match _found : readToken c text with
      | .error fault => ⟨[], .error ⟨position, fault⟩⟩
      | .ok lexeme =>
        let others := lexFrom (position + lexeme.width) lexeme.rest
        ⟨⟨lexeme.token, position⟩ :: others.tokens, others.stop⟩
termination_by text.length
decreasing_by
  · simp
  · exact Nat.lt_succ_of_le (readToken_length (by assumption))

def lex (text : String) : Lexed :=
  lexFrom 0 text.toList

/-- The tokens of a text without a fault, and its end as the last of them. -/
def tokenize (text : String) : Except SyntaxError (List PlacedToken) :=
  (lex text).stop.map fun stop => (lex text).tokens ++ [⟨.endOfText, stop⟩]

end RecordFilter.Filter
