import RecordFilter.Filter.SyntaxError
import RecordFilter.Predicate.Basic

/-!
# State of the parser

A filter is read one token at a time. Between two tokens the parser knows which kind of
token may come next, the operands read so far at the current level of parentheses, and
the levels around it. `not` binds closest, then `and`, then `or`; a chain of one word is
one group, and parentheses leave no node behind.
-/

set_option autoImplicit false

namespace RecordFilter.Filter

structure Subject where
  target : Target
  property : Option String

namespace Subject

def compare (subject : Subject) (comparison : Comparison) (value : Value) : Predicate :=
  .ofLeaf (.compare subject.target comparison subject.property value)

/-- The membership of a subject in a list that was read last value first. -/
def among (subject : Subject) (values : List Value) : Predicate :=
  .ofLeaf (.among subject.target subject.property values.reverse)

end Subject

/-- What a token may continue. -/
inductive Phase where
  | operand
  | metadataDot
  | metadataName
  | operator (subject : Subject)
  /-- A subject and `not` need an operator that can be negated. -/
  | negatedOperator (subject : Subject)
  /-- A comparison needs its literal, of which the minus sign may have been read. -/
  | comparand (subject : Subject) (comparison : Comparison) (signed : Bool)
  | pattern (subject : Subject) (negated : Bool)
  | listStart (subject : Subject) (negated : Bool)
  /-- A literal or the end of an empty list has to come. -/
  | listHead (subject : Subject) (negated : Bool)
  /-- A literal has to come, of which the minus sign may have been read. -/
  | listItem (subject : Subject) (negated : Bool) (values : List Value) (signed : Bool)
  | listRest (subject : Subject) (negated : Bool) (values : List Value)
  | complete

/-- The operands read at one level of parentheses, last first. -/
structure Level where
  /-- Complete operands of `or`. -/
  disjuncts : List Predicate
  /-- Complete operands of the `and` that is being read. -/
  conjuncts : List Predicate
  negated : Bool

structure State where
  outer : List Level
  level : Level
  phase : Phase

/-- The operands of one word: a single one is itself, more are one group. -/
def join (connective : Connective) : List Predicate → Predicate
  | [operand] => operand
  | operands => .group false connective operands.reverse

namespace Level

def empty : Level :=
  { disjuncts := [], conjuncts := [], negated := false }

def add (level : Level) (operand : Predicate) : Level :=
  { level with
    conjuncts := operand.withNegation level.negated :: level.conjuncts
    negated := false }

/-- The operand of `or` that is being read becomes complete. -/
def endConjunction (level : Level) : Level :=
  { level with
    disjuncts := join .and level.conjuncts :: level.disjuncts
    conjuncts := [] }

def close (level : Level) : Predicate :=
  join .or level.endConjunction.disjuncts

end Level

def Phase.refusal (phase : Phase) (nested : Bool) (found : Token) : SyntaxFault :=
  match phase with
  | operand => .expected .property found
  | metadataDot => .expected (.sign .dot) found
  | metadataName => .expected .identifier found
  | operator _ => .expected .comparisonOperator found
  | negatedOperator _ => .negatedOperator
  | comparand _ _ signed => .expected (if signed then .negatedNumber else .literal) found
  | pattern _ _ => .expected .pattern found
  | listStart _ _ => .expected (.sign .leftParen) found
  | listHead _ _ => .expected .literal found
  | listItem _ _ _ signed => .expected (if signed then .negatedNumber else .literal) found
  | listRest _ _ _ => .expected (.sign .rightParen) found
  | complete => if nested then .expected (.sign .rightParen) found else .trailing found

def comparison? : Symbol → Option Comparison
  | .equal => some .equal
  | .notEqual => some .notEqual
  | .less => some .less
  | .greater => some .greater
  | .lessOrEqual => some .lessOrEqual
  | .greaterOrEqual => some .greaterOrEqual
  | .minus | .leftParen | .rightParen | .comma | .dot => none

/-- What a token means where a literal is read. -/
inductive LiteralPart where
  | value (value : Value)
  | sign
  | none

def literalPart (signed : Bool) : Token → Except SyntaxFault LiteralPart
  | .number literal =>
    match literal.value? signed with
    | some value => .ok (.value value)
    | none => .error (.outOfRange ((if signed then "-" else "") ++ literal.text))
  | .string text => .ok (if signed then .none else .value (.string text))
  | .keyword .true => .ok (if signed then .none else .value (.boolean true))
  | .keyword .false => .ok (if signed then .none else .value (.boolean false))
  | .symbol .minus => .ok (if signed then .none else .sign)
  | _ => .ok .none

namespace State

def start : State :=
  { outer := [], level := .empty, phase := .operand }

def expecting (state : State) (phase : Phase) : State :=
  { state with phase }

def completing (state : State) (operand : Predicate) : State :=
  { state with level := state.level.add operand, phase := .complete }

def refuse (state : State) (found : Token) : SyntaxFault :=
  state.phase.refusal (!state.outer.isEmpty) found

def readOperand (state : State) : Token → Except SyntaxFault State
  | .keyword .not =>
    .ok { state with level := { state.level with negated := !state.level.negated } }
  | .symbol .leftParen =>
    .ok { outer := state.level :: state.outer, level := .empty, phase := .operand }
  | .keyword .true => .ok (state.completing (.constant true))
  | .keyword .false => .ok (state.completing (.constant false))
  | .keyword .key => .ok (state.expecting (.operator ⟨.key, none⟩))
  | .keyword .metadata => .ok (state.expecting .metadataDot)
  | .identifier name => .ok (state.expecting (.operator ⟨.value, some name⟩))
  | found => .error (state.refuse found)

def readOperator (state : State) (subject : Subject) : Token → Except SyntaxFault State
  | .keyword .not => .ok (state.expecting (.negatedOperator subject))
  | .keyword .oneOf => .ok (state.expecting (.listStart subject false))
  | .keyword .like => .ok (state.expecting (.pattern subject false))
  | .symbol sign =>
    match comparison? sign with
    | some comparison => .ok (state.expecting (.comparand subject comparison false))
    | none => .error (state.refuse (.symbol sign))
  | found => .error (state.refuse found)

def readJoint (state : State) : Token → Except SyntaxFault State
  | .keyword .and => .ok (state.expecting .operand)
  | .keyword .or =>
    .ok { state with level := state.level.endConjunction, phase := .operand }
  | .symbol .rightParen =>
    match state.outer with
    | level :: outer =>
      .ok { outer, level := level.add state.level.close, phase := .complete }
    | [] => .error (state.refuse (.symbol .rightParen))
  | found => .error (state.refuse found)

def advance (state : State) (token : Token) : Except SyntaxFault State :=
  match state.phase with
  | .operand => state.readOperand token
  | .metadataDot =>
    if token = .symbol .dot then .ok (state.expecting .metadataName)
    else .error (state.refuse token)
  | .metadataName =>
    match token with
    | .identifier name => .ok (state.expecting (.operator ⟨.metadata, some name⟩))
    | _ => .error (state.refuse token)
  | .operator subject => state.readOperator subject token
  | .negatedOperator subject =>
    if token = .keyword .oneOf then .ok (state.expecting (.listStart subject true))
    else if token = .keyword .like then .ok (state.expecting (.pattern subject true))
    else .error (state.refuse token)
  | .comparand subject comparison signed => do
    match ← literalPart signed token with
    | .value value => return state.completing (subject.compare comparison value)
    | .sign => return state.expecting (.comparand subject comparison true)
    | .none => throw (state.refuse token)
  | .pattern subject negated =>
    match token with
    | .string text =>
      .ok (state.completing ((subject.compare .like (.string text)).withNegation negated))
    | _ => .error (state.refuse token)
  | .listStart subject negated =>
    if token = .symbol .leftParen then .ok (state.expecting (.listHead subject negated))
    else .error (state.refuse token)
  | .listHead subject negated =>
    if token = .symbol .rightParen then
      .ok (state.completing ((subject.among []).withNegation negated))
    else do
      match ← literalPart false token with
      | .value value => return state.expecting (.listRest subject negated [value])
      | .sign => return state.expecting (.listItem subject negated [] true)
      | .none => throw (state.refuse token)
  | .listItem subject negated values signed => do
    match ← literalPart signed token with
    | .value value => return state.expecting (.listRest subject negated (value :: values))
    | .sign => return state.expecting (.listItem subject negated values true)
    | .none => throw (state.refuse token)
  | .listRest subject negated values =>
    if token = .symbol .comma then
      .ok (state.expecting (.listItem subject negated values false))
    else if token = .symbol .rightParen then
      .ok (state.completing ((subject.among values).withNegation negated))
    else .error (state.refuse token)
  | .complete => state.readJoint token

def finish (state : State) : Except SyntaxFault Predicate :=
  match state.phase, state.outer with
  | .complete, [] => .ok state.level.close
  | _, _ => .error (state.refuse .endOfText)

end State

end RecordFilter.Filter
