import RecordFilter.Predicate.Operator
import RecordFilter.Sql.Dialect

/-!
# The language of conditions

Conditions as a tree, and the texts that stand for one. A text stands for one condition
only, whatever the names of tables and columns are: a quoted name ends at the first
closing mark that is not doubled, and everything else ends at a blank, a comma or a
bracket that it cannot contain.
-/

set_option autoImplicit false

namespace RecordFilter.Sql

/-- A condition with something for each value it compares with. -/
inductive Condition (α : Type) where
  | constant (negated truth : Bool)
  | compare (negated : Bool) (table column : String) (comparison : Comparison) (operand : α)
  | among (negated : Bool) (table column : String) (operands : List α)
  | pair (negated : Bool) (connective : Connective) (left right : Condition α)

namespace Condition

variable {α β : Type}

def map (f : α → β) : Condition α → Condition β
  | constant negated truth => .constant negated truth
  | compare negated table column comparison operand =>
    .compare negated table column comparison (f operand)
  | among negated table column operands => .among negated table column (operands.map f)
  | pair negated connective left right => .pair negated connective (left.map f) (right.map f)

def operands : Condition α → List α
  | constant _ _ => []
  | compare _ _ _ _ operand => [operand]
  | among _ _ _ operands => operands
  | pair _ _ left right => left.operands ++ right.operands

def isNegated : Condition α → Bool
  | constant negated _ => negated
  | compare negated _ _ _ _ => negated
  | among negated _ _ _ => negated
  | pair negated _ _ _ => negated

end Condition

/-! ## Sentences -/

def negationMark (negated : Bool) : String :=
  if negated then "not " else ""

/-- A placeholder: its marker, a letter, and digits. -/
inductive IsPlaceholder : String → Prop where
  | numbered {digits : List Char} : digits ≠ [] → (∀ digit ∈ digits, digit.isDigit = true) →
      IsPlaceholder ("@p" ++ String.ofList digits)

/-- The texts that stand for a condition over placeholders. -/
inductive Sentence (dialect : Dialect) : Condition String → String → Prop where
  | always {negated : Bool} :
      Sentence dialect (.constant negated true) (negationMark negated ++ "(0 = 0)")
  | never {negated : Bool} :
      Sentence dialect (.constant negated false) (negationMark negated ++ "(0 = 1)")
  | compare {negated : Bool} {table column : String} {comparison : Comparison} {name : String} :
      comparison ≠ .oneOf → IsPlaceholder name →
      Sentence dialect (.compare negated table column comparison name)
        (negationMark negated ++ "(" ++ dialect.qualify table column ++ " " ++
          comparison.symbol ++ " " ++ name ++ ")")
  | among {negated : Bool} {table column : String} {names : List String} :
      names ≠ [] → (∀ name ∈ names, IsPlaceholder name) →
      Sentence dialect (.among negated table column names)
        (negationMark negated ++ "(" ++ dialect.qualify table column ++ " in (" ++
          String.intercalate ", " names ++ "))")
  | pair {negated : Bool} {connective : Connective} {left right : Condition String}
      {leftText rightText : String} :
      Sentence dialect left leftText → Sentence dialect right rightText →
      Sentence dialect (.pair negated connective left right)
        (negationMark negated ++ "(" ++ leftText ++ " " ++ connective.keyword ++ " " ++
          rightText ++ ")")

/-! ## Where parts end -/

theorem eq_of_append_cons {α : Type} {inside : α → Prop} {s t r q : List α} {x y : α}
    (left : ∀ c ∈ s, inside c) (right : ∀ c ∈ t, inside c) (leftEnd : ¬ inside x)
    (rightEnd : ¬ inside y) (same : s ++ x :: r = t ++ y :: q) : s = t ∧ x = y ∧ r = q := by
  induction s generalizing t with
  | nil =>
      cases t with
      | nil =>
          obtain ⟨ends, rest⟩ := List.cons_eq_cons.mp same
          exact ⟨rfl, ends, rest⟩
      | cons c t =>
          obtain ⟨rfl, _⟩ := List.cons_eq_cons.mp same
          exact absurd (right x List.mem_cons_self) leftEnd
  | cons c s ih =>
      cases t with
      | nil =>
          obtain ⟨rfl, _⟩ := List.cons_eq_cons.mp same
          exact absurd (left c List.mem_cons_self) rightEnd
      | cons d t =>
          obtain ⟨rfl, rest⟩ := List.cons_eq_cons.mp same
          obtain ⟨rfl, ends, after⟩ := ih (fun e member => left e (List.mem_cons_of_mem _ member))
            (fun e member => right e (List.mem_cons_of_mem _ member)) rest
          exact ⟨rfl, ends, after⟩

theorem toList_quote (dialect : Dialect) (name : String) :
    (dialect.quote name).toList =
      dialect.openingQuote :: (Text.double dialect.closingQuote name.toList ++
        [dialect.closingQuote]) := by
  simp [Dialect.quote, Text.enclose]

theorem quote_unique {dialect : Dialect} {first second : String} {r q : List Char} {x y : Char}
    (leftEnd : x ≠ dialect.closingQuote) (rightEnd : y ≠ dialect.closingQuote)
    (same : (dialect.quote first).toList ++ x :: r = (dialect.quote second).toList ++ y :: q) :
    first = second ∧ x = y ∧ r = q := by
  have read : ∀ (name : String) (z : Char) (rest : List Char), z ≠ dialect.closingQuote →
      Text.readDoubled dialect.closingQuote ((dialect.quote name).toList ++ z :: rest).tail =
        some (name.toList, z :: rest) := by
    intro name z rest ends
    rw [toList_quote, List.cons_append, List.tail_cons, List.append_assoc]
    exact Text.readDoubled_double _ _ _ (by simpa using ends)
  have both := read first x r leftEnd
  rw [same, read second y q rightEnd] at both
  obtain ⟨names, rest⟩ := Prod.mk.inj (Option.some.inj both)
  obtain ⟨ends, after⟩ := List.cons_eq_cons.mp rest
  exact ⟨(String.toList_inj.mp names).symm, ends.symm, after.symm⟩

theorem qualify_unique {dialect : Dialect} {table table' column column' : String}
    {r q : List Char}
    (same : (dialect.qualify table column).toList ++ ' ' :: r =
      (dialect.qualify table' column').toList ++ ' ' :: q) :
    table = table' ∧ column = column' ∧ r = q := by
  have point : '.' ≠ dialect.closingQuote := by cases dialect <;> decide
  have blank : ' ' ≠ dialect.closingQuote := by cases dialect <;> decide
  have dot : ".".toList = ['.'] := by decide
  simp only [Dialect.qualify, String.toList_append, dot, List.append_assoc, List.cons_append,
    List.nil_append] at same
  obtain ⟨tables, _, rest⟩ := quote_unique point point same
  obtain ⟨columns, _, after⟩ := quote_unique blank blank rest
  exact ⟨tables, columns, after⟩

theorem symbol_injective {first second : Comparison} (same : first.symbol = second.symbol) :
    first = second := by
  cases first <;> cases second <;> first
    | rfl
    | exact absurd same (by decide)

theorem symbol_unique {first second : Comparison} {r q : List Char}
    (same : first.symbol.toList ++ ' ' :: r = second.symbol.toList ++ ' ' :: q) :
    first = second ∧ r = q := by
  have dense : ∀ comparison : Comparison, ∀ c ∈ comparison.symbol.toList, c ≠ ' ' := by
    intro comparison c member same
    have absent : ' ' ∉ comparison.symbol.toList := by cases comparison <;> decide
    exact absent (same ▸ member)
  obtain ⟨symbols, _, rest⟩ := eq_of_append_cons (dense first) (dense second)
    (not_not_intro rfl) (not_not_intro rfl) same
  exact ⟨symbol_injective (String.toList_inj.mp symbols), rest⟩

theorem keyword_unique {first second : Connective} {r q : List Char}
    (same : first.keyword.toList ++ ' ' :: r = second.keyword.toList ++ ' ' :: q) :
    first = second ∧ r = q := by
  have dense : ∀ connective : Connective, ∀ c ∈ connective.keyword.toList, c ≠ ' ' := by
    intro connective c member same
    have absent : ' ' ∉ connective.keyword.toList := by cases connective <;> decide
    exact absent (same ▸ member)
  obtain ⟨keywords, _, rest⟩ := eq_of_append_cons (dense first) (dense second)
    (not_not_intro rfl) (not_not_intro rfl) same
  refine ⟨?_, rest⟩
  cases first <;> cases second <;> first
    | rfl
    | exact absurd keywords (by decide)

def InPlaceholder (c : Char) : Prop :=
  c ≠ ',' ∧ c ≠ ')'

theorem IsPlaceholder.inside {name : String} (placeholder : IsPlaceholder name) :
    ∀ c ∈ name.toList, InPlaceholder c := by
  cases placeholder with
  | @numbered digits _ numeral =>
      intro c member
      rw [String.toList_append, List.mem_append] at member
      rcases member with letter | digit
      · have either : c = '@' ∨ c = 'p' := by simpa using letter
        rcases either with rfl | rfl <;> exact ⟨by decide, by decide⟩
      · rw [String.toList_ofList] at digit
        have isDigit := numeral c digit
        constructor <;>
        · rintro rfl
          cases isDigit

theorem toList_intercalate_cons (name next : String) (names : List String) :
    (String.intercalate ", " (name :: next :: names)).toList =
      name.toList ++ ',' :: ' ' :: (String.intercalate ", " (next :: names)).toList := by
  have comma : ", ".toList = [',', ' '] := by decide
  simp [String.intercalate_cons_cons, comma]

/-- A list of placeholders ends at the bracket behind it. -/
theorem names_unique {first second : List String} {r q : List Char}
    (left : ∀ name ∈ first, IsPlaceholder name) (right : ∀ name ∈ second, IsPlaceholder name)
    (leftSome : first ≠ []) (rightSome : second ≠ [])
    (same : (String.intercalate ", " first).toList ++ ')' :: r =
      (String.intercalate ", " second).toList ++ ')' :: q) :
    first = second ∧ r = q := by
  have comma : ¬ InPlaceholder ',' := fun inside => inside.1 rfl
  have bracket : ¬ InPlaceholder ')' := fun inside => inside.2 rfl
  induction first generalizing second with
  | nil => exact absurd rfl leftSome
  | cons name names ih =>
      cases second with
      | nil => exact absurd rfl rightSome
      | cons other others =>
          have nameInside := (left name List.mem_cons_self).inside
          have otherInside := (right other List.mem_cons_self).inside
          cases names with
          | nil =>
              cases others with
              | nil =>
                  simp only [String.intercalate_singleton] at same
                  obtain ⟨names, _, rest⟩ :=
                    eq_of_append_cons nameInside otherInside bracket bracket same
                  exact ⟨congrArg (fun name => [name]) (String.toList_inj.mp names), rest⟩
              | cons next others =>
                  -- one list ends where the other goes on: a bracket would be a comma
                  rw [String.intercalate_singleton, toList_intercalate_cons,
                    List.append_assoc] at same
                  obtain ⟨_, ends, _⟩ :=
                    eq_of_append_cons nameInside otherInside bracket comma same
                  cases ends
          | cons next names =>
              cases others with
              | nil =>
                  rw [String.intercalate_singleton, toList_intercalate_cons,
                    List.append_assoc] at same
                  obtain ⟨_, ends, _⟩ :=
                    eq_of_append_cons nameInside otherInside comma bracket same
                  cases ends
              | cons nextOther others =>
                  rw [toList_intercalate_cons, toList_intercalate_cons, List.append_assoc,
                    List.append_assoc] at same
                  obtain ⟨heads, _, rest⟩ :=
                    eq_of_append_cons nameInside otherInside comma comma same
                  obtain ⟨tails, after⟩ := ih
                    (fun name member => left name (List.mem_cons_of_mem _ member))
                    (fun name member => right name (List.mem_cons_of_mem _ member))
                    (List.cons_ne_nil _ _) (List.cons_ne_nil _ _)
                    (List.cons_eq_cons.mp rest).2
                  exact ⟨List.cons_eq_cons.mpr ⟨String.toList_inj.mp heads, tails⟩, after⟩

/-! ## Unique reading -/

theorem negationMark_unique {first second : Bool} {r q : List Char}
    (same : (negationMark first).toList ++ '(' :: r = (negationMark second).toList ++ '(' :: q) :
    first = second ∧ r = q := by
  have inverted : (negationMark true).toList = ['n', 'o', 't', ' '] := by decide
  have plain : (negationMark false).toList = [] := by decide
  cases first <;> cases second <;> simp_all

/-- What stands behind the opening bracket of a sentence. -/
inductive Body (dialect : Dialect) : Condition String → List Char → Prop where
  | always {negated : Bool} : Body dialect (.constant negated true) ('0' :: " = 0)".toList)
  | never {negated : Bool} : Body dialect (.constant negated false) ('0' :: " = 1)".toList)
  | compare {negated : Bool} {table column : String} {comparison : Comparison} {name : String} :
      comparison ≠ .oneOf → IsPlaceholder name →
      Body dialect (.compare negated table column comparison name)
        ((dialect.qualify table column).toList ++ ' ' :: (comparison.symbol.toList ++ ' ' ::
          (name.toList ++ [')'])))
  | among {negated : Bool} {table column : String} {names : List String} :
      names ≠ [] → (∀ name ∈ names, IsPlaceholder name) →
      Body dialect (.among negated table column names)
        ((dialect.qualify table column).toList ++ ' ' :: (Comparison.oneOf.symbol.toList ++ ' ' ::
          '(' :: ((String.intercalate ", " names).toList ++ [')', ')'])))
  | pair {negated : Bool} {connective : Connective} {left right : Condition String}
      {leftText rightText : String} :
      Sentence dialect left leftText → Sentence dialect right rightText →
      Body dialect (.pair negated connective left right)
        (leftText.toList ++ ' ' :: (connective.keyword.toList ++ ' ' ::
          (rightText.toList ++ [')'])))

theorem Sentence.exists_body {dialect : Dialect} {condition : Condition String} {text : String}
    (sentence : Sentence dialect condition text) :
    ∃ body, text.toList = (negationMark condition.isNegated).toList ++ '(' :: body ∧
      Body dialect condition body := by
  have bracket : "(".toList = ['('] := by decide
  have closing : ")".toList = [')'] := by decide
  have blank : " ".toList = [' '] := by decide
  have truth : "(0 = 0)".toList = '(' :: '0' :: " = 0)".toList := by decide
  have falsity : "(0 = 1)".toList = '(' :: '0' :: " = 1)".toList := by decide
  have membership : " in (".toList = ' ' :: (Comparison.oneOf.symbol.toList ++ [' ', '(']) := by
    decide
  have closings : "))".toList = [')', ')'] := by decide
  cases sentence with
  | always =>
      refine ⟨_, ?_, .always⟩
      rw [String.toList_append, truth]
      rfl
  | never =>
      refine ⟨_, ?_, .never⟩
      rw [String.toList_append, falsity]
      rfl
  | compare comparing placeholder =>
      refine ⟨_, ?_, .compare comparing placeholder⟩
      simp [bracket, closing, blank, Condition.isNegated]
  | among some placeholders =>
      refine ⟨_, ?_, .among some placeholders⟩
      simp [bracket, membership, closings, Condition.isNegated]
  | pair left right =>
      refine ⟨_, ?_, .pair left right⟩
      simp [bracket, closing, blank, Condition.isNegated]

theorem Sentence.exists_head {dialect : Dialect} {condition : Condition String} {text : String}
    (sentence : Sentence dialect condition text) :
    ∃ c rest, text.toList = c :: rest ∧ (c = 'n' ∨ c = '(') := by
  obtain ⟨body, split, _⟩ := sentence.exists_body
  rw [split]
  cases condition.isNegated with
  | true => exact ⟨'n', _, rfl, .inl rfl⟩
  | false => exact ⟨'(', _, rfl, .inr rfl⟩

theorem exists_head_qualify (dialect : Dialect) (table column : String) :
    ∃ rest, (dialect.qualify table column).toList = dialect.openingQuote :: rest := by
  rw [Dialect.qualify, String.toList_append, String.toList_append, toList_quote]
  exact ⟨_, rfl⟩

def Condition.Opens {α : Type} (dialect : Dialect) : Condition α → Char → Prop
  | .constant _ _, c => c = '0'
  | .compare _ _ _ _ _, c | .among _ _ _ _, c => c = dialect.openingQuote
  | .pair _ _ _ _, c => c = 'n' ∨ c = '('

theorem Body.exists_head {dialect : Dialect} {condition : Condition String} {body : List Char}
    (stands : Body dialect condition body) :
    ∃ c rest, body = c :: rest ∧ condition.Opens dialect c := by
  cases stands with
  | always => exact ⟨'0', _, rfl, rfl⟩
  | never => exact ⟨'0', _, rfl, rfl⟩
  | @compare _ table column =>
      obtain ⟨rest, begins⟩ := exists_head_qualify dialect table column
      rw [begins]
      exact ⟨_, _, rfl, rfl⟩
  | @among _ table column =>
      obtain ⟨rest, begins⟩ := exists_head_qualify dialect table column
      rw [begins]
      exact ⟨_, _, rfl, rfl⟩
  | pair left right =>
      obtain ⟨c, rest, begins, either⟩ := left.exists_head
      rw [begins]
      exact ⟨c, _, rfl, either⟩

theorem Body.exists_opens {dialect : Dialect} {condition other : Condition String}
    {body otherBody r q : List Char} (stands : Body dialect condition body)
    (otherStands : Body dialect other otherBody) (same : body ++ r = otherBody ++ q) :
    ∃ c, condition.Opens dialect c ∧ other.Opens dialect c := by
  obtain ⟨c, rest, rfl, opens⟩ := stands.exists_head
  obtain ⟨d, otherRest, rfl, otherOpens⟩ := otherStands.exists_head
  obtain ⟨rfl, _⟩ := List.cons_eq_cons.mp same
  exact ⟨c, opens, otherOpens⟩

theorem openingQuote_ne (dialect : Dialect) :
    dialect.openingQuote ≠ '0' ∧ dialect.openingQuote ≠ 'n' ∧ dialect.openingQuote ≠ '(' := by
  cases dialect <;> decide

section Unique

variable {dialect : Dialect} {other : Condition String} {body otherBody r q : List Char}

theorem Body.unique_constant {negated truth : Bool}
    (stands : Body dialect (.constant negated truth) body)
    (otherStands : Body dialect other otherBody) (flags : negated = other.isNegated)
    (same : body ++ r = otherBody ++ q) : .constant negated truth = other ∧ r = q := by
  obtain ⟨c, rfl, opens⟩ := stands.exists_opens otherStands same
  obtain ⟨noZero, _, _⟩ := openingQuote_ne dialect
  obtain rfl := flags
  cases otherStands with
  | always =>
      cases stands with
      | always => exact ⟨rfl, List.append_cancel_left same⟩
      | never => simp at same
  | never =>
      cases stands with
      | always => simp at same
      | never => exact ⟨rfl, List.append_cancel_left same⟩
  | compare => exact absurd opens.symm noZero
  | among => exact absurd opens.symm noZero
  | pair => rcases opens with letter | bracket <;> contradiction

theorem Body.unique_compare {negated : Bool} {table column name : String}
    {comparison : Comparison}
    (stands : Body dialect (.compare negated table column comparison name) body)
    (otherStands : Body dialect other otherBody) (flags : negated = other.isNegated)
    (same : body ++ r = otherBody ++ q) :
    .compare negated table column comparison name = other ∧ r = q := by
  obtain ⟨c, rfl, opens⟩ := stands.exists_opens otherStands same
  obtain ⟨noZero, noLetter, noBracket⟩ := openingQuote_ne dialect
  obtain rfl := flags
  cases stands with
  | compare comparing placeholder =>
      cases otherStands with
      | always => exact absurd opens noZero
      | never => exact absurd opens noZero
      | compare _ otherPlaceholder =>
          simp only [List.append_assoc, List.cons_append] at same
          obtain ⟨rfl, rfl, rest⟩ := qualify_unique same
          obtain ⟨rfl, operands⟩ := symbol_unique rest
          obtain ⟨names, _, after⟩ := eq_of_append_cons placeholder.inside
            otherPlaceholder.inside (fun inside => inside.2 rfl) (fun inside => inside.2 rfl)
            operands
          obtain rfl := String.toList_inj.mp names
          exact ⟨rfl, after⟩
      | among =>
          simp only [List.append_assoc, List.cons_append] at same
          obtain ⟨_, _, rest⟩ := qualify_unique same
          obtain ⟨membership, _⟩ := symbol_unique rest
          exact absurd membership comparing
      | pair => rcases opens with letter | bracket <;> contradiction

theorem Body.unique_among {negated : Bool} {table column : String} {names : List String}
    (stands : Body dialect (.among negated table column names) body)
    (otherStands : Body dialect other otherBody) (flags : negated = other.isNegated)
    (same : body ++ r = otherBody ++ q) : .among negated table column names = other ∧ r = q := by
  obtain ⟨c, rfl, opens⟩ := stands.exists_opens otherStands same
  obtain ⟨noZero, noLetter, noBracket⟩ := openingQuote_ne dialect
  obtain rfl := flags
  cases stands with
  | among some placeholders =>
      cases otherStands with
      | always => exact absurd opens noZero
      | never => exact absurd opens noZero
      | compare comparing =>
          simp only [List.append_assoc, List.cons_append] at same
          obtain ⟨_, _, rest⟩ := qualify_unique same
          obtain ⟨membership, _⟩ := symbol_unique rest
          exact absurd membership.symm comparing
      | among otherSome otherPlaceholders =>
          simp only [List.append_assoc, List.cons_append] at same
          obtain ⟨rfl, rfl, rest⟩ := qualify_unique same
          obtain ⟨_, operands⟩ := symbol_unique rest
          obtain ⟨rfl, after⟩ := names_unique placeholders otherPlaceholders some otherSome
            (List.cons_eq_cons.mp operands).2
          exact ⟨rfl, (List.cons_eq_cons.mp after).2⟩
      | pair => rcases opens with letter | bracket <;> contradiction

/-- Every text that begins with a sentence of the condition begins with no other one. -/
def Condition.IsUnambiguous (dialect : Dialect) (condition : Condition String) : Prop :=
  ∀ {other : Condition String} {text otherText : String} {r q : List Char},
    Sentence dialect condition text → Sentence dialect other otherText →
      text.toList ++ r = otherText.toList ++ q → condition = other ∧ r = q

theorem Body.unique_pair {negated : Bool} {connective : Connective}
    {left right : Condition String} (leftUnique : left.IsUnambiguous dialect)
    (rightUnique : right.IsUnambiguous dialect)
    (stands : Body dialect (.pair negated connective left right) body)
    (otherStands : Body dialect other otherBody) (flags : negated = other.isNegated)
    (same : body ++ r = otherBody ++ q) : .pair negated connective left right = other ∧ r = q := by
  obtain ⟨c, opens, otherOpens⟩ := stands.exists_opens otherStands same
  obtain ⟨noZero, noLetter, noBracket⟩ := openingQuote_ne dialect
  obtain rfl := flags
  cases stands with
  | pair leftSentence rightSentence =>
      cases otherStands with
      | always | never =>
          obtain rfl := otherOpens
          rcases opens with letter | bracket <;> contradiction
      | compare | among =>
          obtain rfl := otherOpens
          rcases opens with letter | bracket <;> contradiction
      | pair otherLeft otherRight =>
          simp only [List.append_assoc, List.cons_append] at same
          obtain ⟨rfl, rest⟩ := leftUnique leftSentence otherLeft same
          obtain ⟨rfl, later⟩ := keyword_unique (List.cons_eq_cons.mp rest).2
          obtain ⟨rfl, after⟩ := rightUnique rightSentence otherRight later
          exact ⟨rfl, (List.cons_eq_cons.mp after).2⟩

theorem Sentence.exists_bodies {condition : Condition String} {text otherText : String}
    (sentence : Sentence dialect condition text) (otherSentence : Sentence dialect other otherText)
    (same : text.toList ++ r = otherText.toList ++ q) :
    ∃ body otherBody, Body dialect condition body ∧ Body dialect other otherBody ∧
      condition.isNegated = other.isNegated ∧ body ++ r = otherBody ++ q := by
  obtain ⟨body, split, stands⟩ := sentence.exists_body
  obtain ⟨otherBody, otherSplit, otherStands⟩ := otherSentence.exists_body
  rw [split, otherSplit, List.append_assoc, List.append_assoc] at same
  obtain ⟨flags, bodies⟩ := negationMark_unique same
  exact ⟨body, otherBody, stands, otherStands, flags, bodies⟩

/-- No text stands for two conditions, and none is the beginning of another. -/
theorem Condition.isUnambiguous (condition : Condition String) :
    condition.IsUnambiguous dialect := by
  induction condition with
  | constant negated truth =>
      intro other text otherText r q sentence otherSentence same
      obtain ⟨_, _, stands, otherStands, flags, bodies⟩ := sentence.exists_bodies otherSentence same
      exact stands.unique_constant otherStands flags bodies
  | compare negated table column comparison name =>
      intro other text otherText r q sentence otherSentence same
      obtain ⟨_, _, stands, otherStands, flags, bodies⟩ := sentence.exists_bodies otherSentence same
      exact stands.unique_compare otherStands flags bodies
  | among negated table column names =>
      intro other text otherText r q sentence otherSentence same
      obtain ⟨_, _, stands, otherStands, flags, bodies⟩ := sentence.exists_bodies otherSentence same
      exact stands.unique_among otherStands flags bodies
  | pair negated connective left right leftIH rightIH =>
      intro other text otherText r q sentence otherSentence same
      obtain ⟨_, _, stands, otherStands, flags, bodies⟩ := sentence.exists_bodies otherSentence same
      exact stands.unique_pair leftIH rightIH otherStands flags bodies

end Unique

theorem Sentence.unique {dialect : Dialect} {condition other : Condition String} {text : String}
    (sentence : Sentence dialect condition text) (otherSentence : Sentence dialect other text) :
    other = condition := by
  have same : text.toList ++ [] = text.toList ++ [] := rfl
  exact (condition.isUnambiguous sentence otherSentence same).1.symm

end RecordFilter.Sql
