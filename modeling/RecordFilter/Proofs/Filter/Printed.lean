import RecordFilter.Predicate.Printer
import RecordFilter.Proofs.Filter.Completeness
import RecordFilter.Proofs.Filter.Spelling

/-!
# Printed filters are read back

A predicate that the filter language can express is printed as a text that spells tokens
which derive it, so reading the text gives the predicate back: every flag, every group and
every literal.
-/

set_option autoImplicit false

namespace RecordFilter

open RecordFilter.Filter (beginsWord continuesWord Keyword Subject)

/-! ## What filters can express -/

/-- The values that have a literal. A word that fits an `int64` is read as one. -/
inductive Value.IsExpressible : Value → Prop where
  | boolean (b : Bool) : IsExpressible (.boolean b)
  | string (text : String) : IsExpressible (.string text)
  | int64 (n : Int64) : IsExpressible (.int64 n)
  | uint64 {n : UInt64} : Int64.maxValue.toInt < n.toNat → IsExpressible (.uint64 n)

/-- A name that is read as one without quotes: a word that is not reserved. -/
inductive Filter.IsName : String → Prop where
  | word {c : Char} {others : List Char} :
      beginsWord c = true → others.all continuesWord = true →
      Keyword.ofWord? (c :: others) = none → IsName (String.ofList (c :: others))

inductive Filter.Subject.IsExpressible : Subject → Prop where
  | key : IsExpressible ⟨.key, none⟩
  | field {name : String} : Filter.IsName name → IsExpressible ⟨.value, some name⟩
  | metadata {name : String} : Filter.IsName name → IsExpressible ⟨.metadata, some name⟩

inductive Leaf.IsExpressible : Leaf → Prop where
  | constant (truth : Bool) :
      IsExpressible (.compare .constant .equal none (.boolean truth))
  | ordering {subject : Subject} {comparison : Comparison} {value : Value} :
      subject.IsExpressible → comparison.isOrdering = true → value.IsExpressible →
      IsExpressible (.compare subject.target comparison subject.property value)
  | among {subject : Subject} {values : List Value} :
      subject.IsExpressible → (∀ v ∈ values, v.IsExpressible) →
      IsExpressible (.among subject.target subject.property values)
  | like {subject : Subject} {pattern : String} :
      subject.IsExpressible →
      IsExpressible (.compare subject.target .like subject.property (.string pattern))

inductive Predicate.IsExpressible : Predicate → Prop where
  | leaf {negated : Bool} {l : Leaf} : l.IsExpressible → IsExpressible (.leaf negated l)
  | group {negated : Bool} {connective : Connective} {children : List Predicate} :
      2 ≤ children.length → (∀ child ∈ children, IsExpressible child) →
      IsExpressible (.group negated connective children)

namespace Filter

/-- A text spells tokens of a kind, in front of whatever a printed filter has behind it. -/
def Prints (text : String) (kind : List Token → Prop) : Prop :=
  ∃ tokens, kind tokens ∧ ∀ rest, Delimits rest → Spells text.toList tokens rest

theorem Prints.mono {text : String} {kind other : List Token → Prop} (printed : Prints text kind)
    (also : ∀ tokens, kind tokens → other tokens) : Prints text other := by
  obtain ⟨tokens, suited, spelled⟩ := printed
  exact ⟨tokens, also tokens suited, spelled⟩

/-! ## Literals -/

theorem digitsValue_toDigits (n : Nat) : digitsValue (Nat.toDigits 10 n) = n :=
  Nat.ofDigitChars_toDigits (by decide) (by decide)

theorem spells_toDigits (n : Nat) {rest : List Char} (delimits : Delimits rest) :
    Spells (Nat.toDigits 10 n) [.number ⟨Nat.toDigits 10 n, none⟩] rest := by
  have all : ∀ c ∈ Nat.toDigits 10 n, c.isDigit = true :=
    fun c member => Nat.isDigit_of_mem_toDigits (by decide) (by decide) member
  cases written : Nat.toDigits 10 n with
  | nil => exact absurd written Nat.toDigits_ne_nil
  | cons d others =>
      rw [written] at all
      apply spells_number all
      intro c head
      obtain ⟨_, digit, point, _⟩ := delimits.ends c head
      exact ⟨digit, point⟩

theorem value?_toDigits (n : Nat) (negative : Bool) :
    NumberLiteral.value? ⟨Nat.toDigits 10 n, none⟩ negative =
      if negative then (int64? (-n)).map .int64
      else (int64? n).map .int64 <|> (uint64? n).map .uint64 := by
  simp only [NumberLiteral.value?, digitsValue_toDigits]

theorem prints_word {c : Char} {word : List Char} {keyword : Keyword}
    (letters : (c :: word).all beginsWord = true)
    (reserved : Keyword.ofWord? (c :: word) = some keyword) {kind : List Token → Prop}
    (suited : kind [.keyword keyword]) : Prints (String.ofList (c :: word)) kind := by
  refine ⟨_, suited, fun rest delimits => ?_⟩
  rw [String.toList_ofList]
  exact spells_keyword letters reserved fun d head => (delimits.ends d head).1

theorem prints_int64 (n : Int64) : Prints (Value.int64 n).text (DerivesLiteral · (.int64 n)) := by
  rw [Value.text]
  cases integer : n.toInt with
  | ofNat m =>
      have exact : int64? m = some n := int64?_eq_some_iff.mpr integer
      have literal : NumberLiteral.value? ⟨Nat.toDigits 10 m, none⟩ false = some (.int64 n) := by
        rw [value?_toDigits, exact]
        rfl
      refine ⟨_, .number literal, fun rest delimits => ?_⟩
      show Spells m.repr.toList _ _
      rw [Nat.toList_repr]
      exact spells_toDigits m delimits
  | negSucc m =>
      have exact : int64? (-(m + 1 : Nat)) = some n := int64?_eq_some_iff.mpr integer
      have literal : NumberLiteral.value? ⟨Nat.toDigits 10 (m + 1), none⟩ true =
          some (.int64 n) := by
        rw [value?_toDigits, exact]
        rfl
      refine ⟨_, .number literal, fun rest delimits => ?_⟩
      show Spells ("-" ++ (m + 1).repr).toList _ _
      rw [String.toList_append, Nat.toList_repr]
      exact Spells.append (spells_token (by decide) rfl) (spells_toDigits (m + 1) delimits)

theorem prints_uint64 {n : UInt64} (large : Int64.maxValue.toInt < n.toNat) :
    Prints (Value.uint64 n).text (DerivesLiteral · (.uint64 n)) := by
  have signed : int64? n.toNat = none := by
    unfold int64?
    rw [if_neg (by omega)]
  have exact : uint64? n.toNat = some n := uint64?_eq_some_iff.mpr rfl
  have literal : NumberLiteral.value? ⟨Nat.toDigits 10 n.toNat, none⟩ false =
      some (.uint64 n) := by
    rw [value?_toDigits, signed, exact]
    rfl
  refine ⟨_, .number literal, fun rest delimits => ?_⟩
  show Spells n.toNat.repr.toList _ _
  rw [Nat.toList_repr]
  exact spells_toDigits n.toNat delimits

theorem prints_literal {v : Value} (expressible : v.IsExpressible) :
    Prints v.text (DerivesLiteral · v) := by
  cases expressible with
  | boolean b =>
      cases b with
      | true => exact prints_word (by decide +kernel) rfl .true
      | false => exact prints_word (by decide +kernel) rfl .false
  | string text =>
      refine ⟨_, .string text, fun rest delimits => spells_string text ?_⟩
      intro quote
      exact (delimits.ends _ quote).2.2.2 rfl
  | int64 n => exact prints_int64 n
  | uint64 large => exact prints_uint64 large

/-! ## Chains -/

section Chains

variable {α : Type} {kind : List Token → α → Prop} {write : α → String} {separator : String}
  {sign : Token}

/-- Printed items with a separator between them are a chain of what they spell. -/
theorem exists_printed_chain (apart : ∀ rest, Spells separator.toList [sign] rest)
    (delimits : ∀ rest, Delimits (separator.toList ++ rest)) {first : α} {others : List α}
    (each : ∀ item ∈ first :: others, Prints (write item) (kind · item)) :
    ∃ (head : Part α) (tail : List (Part α)), head.meaning = first ∧
      tail.map (·.meaning) = others ∧
      (∀ part ∈ head :: tail, kind part.tokens part.meaning) ∧
      ∀ rest, Delimits rest →
        Spells (separator.intercalate ((first :: others).map write)).toList
          (head.chain sign tail) rest := by
  induction others generalizing first with
  | nil =>
      obtain ⟨tokens, suited, spelled⟩ := each first List.mem_cons_self
      refine ⟨⟨tokens, first⟩, [], rfl, rfl, by simpa using suited, ?_⟩
      rw [Part.chain_nil, List.map_cons, List.map_nil, String.intercalate_singleton]
      exact spelled
  | cons second others ih =>
      obtain ⟨printed, later⟩ := List.forall_mem_cons.mp each
      obtain ⟨tokens, suited, spelled⟩ := printed
      obtain ⟨head, tail, same, meanings, kinds, chain⟩ := ih later
      refine ⟨⟨tokens, first⟩, head :: tail, rfl, by rw [List.map_cons, same, meanings], ?_, ?_⟩
      · exact List.forall_mem_cons.mpr ⟨suited, kinds⟩
      · intro rest follows
        rw [Part.chain_cons, List.map_cons, List.map_cons, String.intercalate_cons_cons,
          String.toList_append, String.toList_append, List.append_assoc]
        refine (spelled _ ?_).append ((apart _).append (chain rest follows))
        rw [List.append_assoc]
        exact delimits _

end Chains

theorem spells_listSeparator (rest : List Char) : Spells ", ".toList [.symbol .comma] rest := by
  have spelled : Spells ([','] ++ [' ']) ([.symbol .comma] ++ []) rest :=
    .append (spells_token (by decide) rfl) (spells_space rest)
  exact spelled

theorem delimits_listSeparator (rest : List Char) : Delimits (", ".toList ++ rest) := by
  rintro c ⟨⟩
  exact .inr (.inr rfl)

theorem delimits_space (rest : List Char) : Delimits (' ' :: rest) := by
  rintro c ⟨⟩
  exact .inl rfl

theorem delimits_rightParen (rest : List Char) : Delimits (')' :: rest) := by
  rintro c ⟨⟩
  exact .inr (.inl rfl)

/-! ## Comparisons -/

theorem prints_name {name : String} (readable : IsName name) {kind : List Token → Prop}
    (suited : kind [.identifier name]) : Prints name kind := by
  cases readable with
  | word begins continues free =>
      refine ⟨_, suited, fun rest delimits => ?_⟩
      rw [String.toList_ofList]
      exact spells_name begins (List.all_eq_true.mp continues) free fun d head => (delimits.ends d head).1

theorem prints_target {subject : Subject} (expressible : subject.IsExpressible) {l : Leaf}
    (target : l.target = subject.target) (property : l.property = subject.property) :
    Prints l.targetText (DerivesTarget · subject) := by
  unfold Leaf.targetText Leaf.describe
  rw [target, property]
  cases expressible with
  | key => exact prints_word (by decide +kernel) rfl .key
  | field readable => exact prints_name readable (.field _)
  | @metadata name readable =>
      obtain ⟨_, rfl, spelled⟩ : Prints name (· = [.identifier name]) :=
        prints_name readable rfl
      refine ⟨_, .metadata name, fun rest delimits => ?_⟩
      have word : Spells ['m', 'e', 't', 'a'] [.keyword .metadata] ('.' :: name.toList ++ rest) :=
        spells_keyword (by decide +kernel) rfl (by
          rintro d ⟨⟩
          decide)
      have dot : Spells ['.'] [.symbol .dot] (name.toList ++ rest) :=
        spells_token (by decide) rfl
      rw [String.toList_append]
      exact word.append (dot.append (spelled rest delimits))

theorem Subject.IsExpressible.target_ne {subject : Subject}
    (expressible : subject.IsExpressible) : subject.target ≠ .constant := by
  cases expressible <;> simp

theorem toList_text_compare {subject : Subject} (known : subject.IsExpressible)
    {comparison : Comparison} (plain : comparison ≠ .oneOf) (value : Value) :
    let l := Leaf.compare subject.target comparison subject.property value
    l.text.toList =
      l.targetText.toList ++ ' ' :: (comparison.symbol.toList ++ ' ' :: value.text.toList) := by
  intro l
  have about : l.target ≠ .constant := known.target_ne
  have compares : l.comparison ≠ .oneOf := plain
  have space : " ".toList = [' '] := by decide
  rw [Leaf.text, if_neg about, if_neg compares]
  simp only [String.toList_append, space, List.append_assoc, List.singleton_append]
  rfl

theorem toList_text_among {subject : Subject} (known : subject.IsExpressible)
    (values : List Value) :
    let l := Leaf.among subject.target subject.property values
    l.text.toList =
      l.targetText.toList ++ ' ' :: (['i', 'n'] ++
        ' ' :: '(' :: ((String.intercalate ", " (values.map Value.text)).toList ++ [')'])) := by
  intro l
  have about : l.target ≠ .constant := known.target_ne
  have member : l.comparison = .oneOf := rfl
  have opened : " in (".toList = [' ', 'i', 'n', ' ', '('] := by decide
  have closed : ")".toList = [')'] := by decide
  rw [Leaf.text, if_neg about, if_pos member]
  simp only [String.toList_append, opened, closed, List.append_assoc, List.cons_append,
    List.nil_append]
  rfl

/-- A printed comparison: its subject, an operator between blanks, and an operand. -/
theorem prints_comparison {subject : Subject} (known : subject.IsExpressible) {l : Leaf}
    (target : l.target = subject.target) (property : l.property = subject.property)
    {operator operand : List Char} {middle right : List Token}
    (written : l.text.toList = l.targetText.toList ++ ' ' :: (operator ++ ' ' :: operand))
    (operatorSpelled : ∀ rest, Spells operator middle (' ' :: rest))
    (operandSpelled : ∀ rest, Delimits rest → Spells operand right rest)
    (derives : ∀ left, DerivesTarget left subject →
      DerivesComparison (left ++ (middle ++ right)) (.leaf false l)) :
    Prints l.text (Derives .primary · (.leaf false l)) := by
  obtain ⟨left, derived, targetSpelled⟩ := prints_target known target property
  refine ⟨_, .comparison (derives left derived), fun rest delimits => ?_⟩
  have afterOperator := (spells_space (operand ++ rest)).append (operandSpelled rest delimits)
  have behindBlank := (operatorSpelled (operand ++ rest)).append afterOperator
  have afterTarget := (spells_space (operator ++ ' ' :: operand ++ rest)).append behindBlank
  rw [written]
  exact (targetSpelled _ (delimits_space _)).append afterTarget

theorem spells_enclosed {text rest : List Char} {tokens : List Token}
    (inner : Spells text tokens (')' :: rest)) :
    Spells ('(' :: (text ++ [')']))
      (.symbol .leftParen :: (tokens ++ [.symbol .rightParen])) rest := by
  have opened : Spells ['('] [.symbol .leftParen] (text ++ [')'] ++ rest) :=
    spells_token (by decide) rfl
  have closed : Spells [')'] [.symbol .rightParen] rest := spells_token (by decide) rfl
  exact opened.append (inner.append closed)

theorem prints_values {values : List Value} (literals : ∀ v ∈ values, v.IsExpressible) :
    Prints (String.intercalate ", " (values.map Value.text)) (DerivesLiterals · values) := by
  cases values with
  | nil => exact ⟨[], .none, fun rest _ => .nil⟩
  | cons first others =>
      obtain ⟨head, tail, rfl, rfl, kinds, spelled⟩ := exists_printed_chain
        spells_listSeparator delimits_listSeparator
        fun v member => prints_literal (literals v member)
      exact ⟨_, .some kinds, spelled⟩

theorem spells_operatorWord {c : Char} {word : List Char} {keyword : Keyword}
    (letters : (c :: word).all beginsWord = true)
    (reserved : Keyword.ofWord? (c :: word) = some keyword) (rest : List Char) :
    Spells (c :: word) [.keyword keyword] (' ' :: rest) :=
  spells_keyword letters reserved fun d head => ((delimits_space rest).ends d head).1

theorem prints_leaf {l : Leaf} (expressible : l.IsExpressible) :
    Prints l.text (Derives .primary · (.leaf false l)) := by
  cases expressible with
  | constant truth =>
      cases truth with
      | true => exact prints_word (by decide +kernel) rfl .always
      | false => exact prints_word (by decide +kernel) rfl .never
  | @ordering subject comparison value known ordering literal =>
      obtain ⟨sign, operator, operatorSpelled⟩ := spells_comparison ordering
      obtain ⟨right, operand, operandSpelled⟩ := prints_literal literal
      have plain : comparison ≠ .oneOf := by
        rintro rfl
        cases ordering
      exact prints_comparison known rfl rfl (toList_text_compare known plain value)
        operatorSpelled operandSpelled fun left target => .ordering target operator operand
  | @among subject values known literals =>
      obtain ⟨right, operand, operandSpelled⟩ := prints_values literals
      have word : ∀ rest, Spells ['i', 'n'] [.keyword .oneOf] (' ' :: rest) :=
        spells_operatorWord (by decide +kernel) rfl
      refine prints_comparison known rfl rfl (toList_text_among known values) word
        (fun rest _ => spells_enclosed (operandSpelled _ (delimits_rightParen rest))) ?_
      intro left target
      have derived := @DerivesComparison.among left right _ false _ target operand
      simpa using derived
  | @like subject pattern known =>
      have written := toList_text_compare known (by decide : Comparison.like ≠ .oneOf)
        (.string pattern)
      have symbol : Comparison.like.symbol.toList = ['l', 'i', 'k', 'e'] := by decide
      have word : ∀ rest, Spells ['l', 'i', 'k', 'e'] [.keyword .like] (' ' :: rest) :=
        spells_operatorWord (by decide +kernel) rfl
      rw [symbol] at written
      refine prints_comparison known rfl rfl written word
        (fun rest delimits => spells_string pattern fun quote =>
          (delimits.ends _ quote).2.2.2 rfl) ?_
      intro left target
      have derived := @DerivesComparison.like left _ false pattern target
      simpa using derived

/-! ## Predicates -/

theorem prints_enclosed {text : String} {p : Predicate}
    (printed : Prints text (Derives .or · p)) :
    Prints ("(" ++ text ++ ")") (Derives .primary · p) := by
  obtain ⟨tokens, derived, spelled⟩ := printed
  refine ⟨_, .parenthesized derived, fun rest _ => ?_⟩
  rw [String.toList_append, String.toList_append]
  exact spells_enclosed (spelled _ (delimits_rightParen rest))

theorem prints_inverted {text : String} {p : Predicate}
    (printed : Prints text (Derives .not · p)) :
    Prints ("not " ++ text) (Derives .not · p.negate) := by
  obtain ⟨tokens, derived, spelled⟩ := printed
  refine ⟨_, .inverted derived, fun rest delimits => ?_⟩
  have word : ∀ rest, Spells ['n', 'o', 't'] [.keyword .not] (' ' :: rest) :=
    spells_operatorWord (by decide +kernel) rfl
  rw [String.toList_append]
  exact (word _).append ((spells_space _).append (spelled rest delimits))

def joiningWord : Connective → Keyword
  | .and => .and
  | .or => .or

theorem derives_grouped (connective : Connective) {first : Part Predicate}
    {rest : List (Part Predicate)}
    (derived : ∀ part ∈ first :: rest, Derives .not part.tokens part.meaning) :
    Derives .or (first.chain (.keyword (joiningWord connective)) rest)
      (grouped connective first.meaning (rest.map (·.meaning))) := by
  cases connective with
  | and => exact .or_of_and (.and derived)
  | or => exact .or fun part member => .and_of_not (derived part member)

theorem spells_separator (connective : Connective) (rest : List Char) :
    Spells (" " ++ connective.keyword ++ " ").toList
      [.keyword (joiningWord connective)] rest := by
  have word : Spells connective.keyword.toList [.keyword (joiningWord connective)]
      ([' '] ++ rest) := by
    cases connective with
    | and => exact spells_operatorWord (by decide +kernel) rfl rest
    | or => exact spells_operatorWord (by decide +kernel) rfl rest
  rw [String.toList_append, String.toList_append]
  exact ((spells_space _).append word).append (spells_space rest)

theorem delimits_separator (connective : Connective) (rest : List Char) :
    Delimits ((" " ++ connective.keyword ++ " ").toList ++ rest) := by
  rw [String.toList_append, String.toList_append, List.append_assoc, List.append_assoc]
  exact delimits_space _

/-- The members of a group with its word between them. -/
theorem prints_members (connective : Connective) {first second : Predicate}
    {others : List Predicate}
    (members : ∀ child ∈ first :: second :: others, Prints child.text (Derives .not · child)) :
    Prints
      (String.intercalate (" " ++ connective.keyword ++ " ")
        ((first :: second :: others).map Predicate.text))
      (Derives .or · (.group false connective (first :: second :: others))) := by
  obtain ⟨head, tail, rfl, meanings, kinds, spelled⟩ :=
    exists_printed_chain (spells_separator connective) (delimits_separator connective) members
  have derived := derives_grouped connective kinds
  rw [meanings] at derived
  exact ⟨_, derived, spelled⟩

theorem prints_predicate {p : Predicate} (expressible : p.IsExpressible) :
    Prints p.text (Derives .not · p) := by
  induction expressible with
  | @leaf negated l readable =>
      rw [Predicate.text_leaf]
      have plain := (prints_leaf readable).mono fun _ => Derives.plain
      cases negated with
      | false => exact plain
      | true =>
          have enclosed := prints_enclosed (plain.mono fun _ => Derives.or_of_not)
          have inverted := prints_inverted (enclosed.mono fun _ => Derives.plain)
          rwa [← String.append_assoc, ← String.append_assoc] at inverted
  | @group negated connective children several _ ih =>
      rw [Predicate.text_group]
      obtain ⟨first, second, others, rfl⟩ : ∃ first second others,
          children = first :: second :: others := by
        match children, several with
        | first :: second :: others, _ => exact ⟨first, second, others, rfl⟩
      have enclosed :=
        (prints_enclosed (prints_members connective ih)).mono fun _ => Derives.plain
      cases negated with
      | false => exact enclosed
      | true =>
          have inverted := prints_inverted enclosed
          rwa [← String.append_assoc, ← String.append_assoc] at inverted

end Filter

/-- A predicate that the filter language can express is read back from its text. -/
theorem Predicate.ofText_text {p : Predicate} (expressible : p.IsExpressible) :
    Predicate.ofText p.text = .ok p := by
  obtain ⟨tokens, derived, spelled⟩ :=
    (Filter.prints_predicate expressible).mono fun _ => Filter.Derives.or_of_not
  have nothing : Filter.Delimits [] := by
    rintro c ⟨⟩
  obtain ⟨placed, stop, same, read⟩ := (spelled [] nothing).lex
  rw [String.ofList_toList] at read
  have accepted : Filter.parseTokens placed stop = .ok p := by
    apply Filter.Derives.parseTokens
    rwa [show placed.map (·.token) = tokens from same]
  have parsed : Filter.parse p.text = .ok p := by
    rw [Filter.parse, read]
    exact accepted
  rw [ofText, parsed]
  rfl

theorem Predicate.ofText_text_nested :
    Predicate.ofText
        ("not ((not (größe = 'O''Hara\n☃') and meta._x1 in ()) and " ++
          "not (age <= -9223372036854775808 or not (key in (18446744073709551615, true)) or " ++
          "key like 'a%' or false))") =
      .ok (.group true .and
        [.group false .and
          [.leaf true (.compare .value .equal (some "größe") (.string "O'Hara\n☃")),
            .leaf false (.among .metadata (some "_x1") [])],
          .group true .or
            [.leaf false (.compare .value .lessOrEqual (some "age")
                (.int64 (-9223372036854775808))),
              .leaf true (.among .key none [.uint64 18446744073709551615, .boolean true]),
              .leaf false (.compare .key .like none (.string "a%")),
              .constant false]]) := by
  have size : Filter.IsName "größe" :=
    @Filter.IsName.word 'g' ['r', 'ö', 'ß', 'e'] (by decide +kernel) (by decide +kernel)
      (by decide +kernel)
  have mark : Filter.IsName "_x1" :=
    @Filter.IsName.word '_' ['x', '1'] (by decide +kernel) (by decide +kernel)
      (by decide +kernel)
  have age : Filter.IsName "age" :=
    @Filter.IsName.word 'a' ['g', 'e'] (by decide +kernel) (by decide +kernel)
      (by decide +kernel)
  have named : Leaf.IsExpressible
      (.compare .value .equal (some "größe") (.string "O'Hara\n☃")) :=
    .ordering (.field size) rfl (.string _)
  have noMark : Leaf.IsExpressible (.among .metadata (some "_x1") []) :=
    .among (.metadata mark) (by simp)
  have least : Leaf.IsExpressible
      (.compare .value .lessOrEqual (some "age") (.int64 (-9223372036854775808))) :=
    .ordering (.field age) rfl (.int64 _)
  have keys : Leaf.IsExpressible
      (.among .key none [.uint64 18446744073709551615, .boolean true]) :=
    .among .key (by
      have greatest : Value.IsExpressible (.uint64 18446744073709551615) := .uint64 (by decide)
      simpa using And.intro greatest (.boolean true))
  have like : Leaf.IsExpressible (.compare .key .like none (.string "a%")) := .like .key
  have both : Predicate.IsExpressible (.all [
      .leaf true (.compare .value .equal (some "größe") (.string "O'Hara\n☃")),
      .leaf false (.among .metadata (some "_x1") [])]) :=
    .group (by decide) (by simpa using And.intro (.leaf named) (.leaf noMark))
  have any : Predicate.IsExpressible (.group true .or [
      .leaf false (.compare .value .lessOrEqual (some "age") (.int64 (-9223372036854775808))),
      .leaf true (.among .key none [.uint64 18446744073709551615, .boolean true]),
      .leaf false (.compare .key .like none (.string "a%")),
      .constant false]) :=
    .group (by decide)
      (by simpa using ⟨.leaf least, .leaf keys, .leaf like, .leaf (.constant false)⟩)
  have expressible : Predicate.IsExpressible (.group true .and [_, _]) :=
    .group (Nat.le_refl 2) (by simpa using And.intro both any)
  refine Eq.trans (congrArg Predicate.ofText ?_) (ofText_text expressible)
  decide +kernel

end RecordFilter
