import RecordFilter.Filter.Parser

/-!
# The grammar of filters

Which tokens derive from which nonterminal, and the predicate that a derivation denotes:

```text
or         := and ("or" and)*
and        := not ("and" not)*
not        := "not" not | primary
primary    := "(" or ")" | "true" | "false" | comparison
comparison := target op literal
            | target ["not"] "in" "(" [literal ("," literal)*] ")"
            | target ["not"] "like" string
target     := "key" | "meta" "." identifier | identifier
literal    := string | "true" | "false" | ["-"] number
```

The relations follow these rules one by one and know nothing of states or phases.
-/

set_option autoImplicit false

namespace RecordFilter.Filter

/-! ## Repetitions and options -/

/-- Tokens and what they denote. -/
structure Part (α : Type) where
  tokens : List Token
  meaning : α

/-- `first (sign rest)*` -/
def Part.chain {α : Type} (sign : Token) (first : Part α) (rest : List (Part α)) : List Token :=
  first.tokens ++ rest.flatMap fun part => sign :: part.tokens

/-- `[token]` -/
def optional (present : Bool) (token : Token) : List Token :=
  if present then [token] else []

@[simp] theorem optional_true (token : Token) : optional true token = [token] := rfl

@[simp] theorem optional_false (token : Token) : optional false token = [] := rfl

/-! ## Comparisons -/

inductive DerivesLiteral : List Token → Value → Prop where
  | string (text : String) : DerivesLiteral [.string text] (.string text)
  | true : DerivesLiteral [.keyword .true] (.boolean true)
  | false : DerivesLiteral [.keyword .false] (.boolean false)
  | number {negative : Bool} {literal : NumberLiteral} {value : Value} :
      literal.value? negative = some value →
      DerivesLiteral (optional negative (.symbol .minus) ++ [.number literal]) value

inductive DerivesLiterals : List Token → List Value → Prop where
  | none : DerivesLiterals [] []
  | some {first : Part Value} {rest : List (Part Value)} :
      (∀ part ∈ first :: rest, DerivesLiteral part.tokens part.meaning) →
      DerivesLiterals (first.chain (.symbol .comma) rest)
        (first.meaning :: rest.map (·.meaning))

inductive DerivesTarget : List Token → Subject → Prop where
  | key : DerivesTarget [.keyword .key] ⟨.key, none⟩
  | metadata (name : String) :
      DerivesTarget [.keyword .metadata, .symbol .dot, .identifier name] ⟨.metadata, some name⟩
  | field (name : String) : DerivesTarget [.identifier name] ⟨.value, some name⟩

inductive DerivesComparison : List Token → Predicate → Prop where
  | ordering {target literal : List Token} {subject : Subject} {sign : Symbol}
      {comparison : Comparison} {value : Value} :
      DerivesTarget target subject → comparison? sign = some comparison →
      DerivesLiteral literal value →
      DerivesComparison (target ++ .symbol sign :: literal)
        (.ofLeaf (.compare subject.target comparison subject.property value))
  | among {target literals : List Token} {subject : Subject} {negated : Bool}
      {values : List Value} :
      DerivesTarget target subject → DerivesLiterals literals values →
      DerivesComparison
        (target ++ optional negated (.keyword .not) ++
          .keyword .oneOf :: .symbol .leftParen :: literals ++ [.symbol .rightParen])
        (.leaf negated (.among subject.target subject.property values))
  | like {target : List Token} {subject : Subject} {negated : Bool} {pattern : String} :
      DerivesTarget target subject →
      DerivesComparison
        (target ++ optional negated (.keyword .not) ++ [.keyword .like, .string pattern])
        (.leaf negated (.compare subject.target .like subject.property (.string pattern)))

/-! ## Predicates -/

inductive Nonterminal where
  | or
  | and
  | not
  | primary
  deriving DecidableEq, Repr

/-- The operands of a chain as one group; a single one is itself. -/
def grouped (connective : Connective) (first : Predicate) : List Predicate → Predicate
  | [] => first
  | rest => .group false connective (first :: rest)

inductive Derives : Nonterminal → List Token → Predicate → Prop where
  | or {first : Part Predicate} {rest : List (Part Predicate)} :
      (∀ part ∈ first :: rest, Derives .and part.tokens part.meaning) →
      Derives .or (first.chain (.keyword .or) rest)
        (grouped .or first.meaning (rest.map (·.meaning)))
  | and {first : Part Predicate} {rest : List (Part Predicate)} :
      (∀ part ∈ first :: rest, Derives .not part.tokens part.meaning) →
      Derives .and (first.chain (.keyword .and) rest)
        (grouped .and first.meaning (rest.map (·.meaning)))
  | inverted {tokens : List Token} {p : Predicate} :
      Derives .not tokens p → Derives .not (.keyword .not :: tokens) p.negate
  | plain {tokens : List Token} {p : Predicate} :
      Derives .primary tokens p → Derives .not tokens p
  | parenthesized {tokens : List Token} {p : Predicate} :
      Derives .or tokens p →
      Derives .primary (.symbol .leftParen :: tokens ++ [.symbol .rightParen]) p
  | always : Derives .primary [.keyword .true] (.constant true)
  | never : Derives .primary [.keyword .false] (.constant false)
  | comparison {tokens : List Token} {p : Predicate} :
      DerivesComparison tokens p → Derives .primary tokens p

theorem Part.chain_nil {α : Type} (sign : Token) (first : Part α) :
    first.chain sign [] = first.tokens := by
  rw [chain, List.flatMap_nil, List.append_nil]

theorem Part.chain_cons {α : Type} (sign : Token) (first next : Part α) (rest : List (Part α)) :
    first.chain sign (next :: rest) = first.tokens ++ sign :: next.chain sign rest := by
  simp [chain]

namespace Derives

variable {tokens : List Token} {p : Predicate}

theorem and_of_not (derived : Derives .not tokens p) : Derives .and tokens p := by
  have chain : Derives .and (Part.chain (.keyword .and) ⟨tokens, p⟩ []) p :=
    .and (by simpa using derived)
  rwa [Part.chain_nil] at chain

theorem or_of_and (derived : Derives .and tokens p) : Derives .or tokens p := by
  have chain : Derives .or (Part.chain (.keyword .or) ⟨tokens, p⟩ []) p :=
    .or (by simpa using derived)
  rwa [Part.chain_nil] at chain

theorem or_of_not (derived : Derives .not tokens p) : Derives .or tokens p :=
  or_of_and (and_of_not derived)

end Derives

end RecordFilter.Filter
