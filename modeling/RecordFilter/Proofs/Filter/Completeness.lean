import RecordFilter.Proofs.Filter.Grammar
import RecordFilter.Proofs.Result

/-!
# Derivations are read

Reading the tokens of a derivation brings the parser from a state that waits for an operand
to one in which the operand is complete, and the operand is the one that the derivation
denotes. What the parser holds outside of the operand stays as it is.
-/

set_option autoImplicit false

namespace RecordFilter.Filter

/-! ## Runs -/

namespace State

def run (state : State) (tokens : List Token) : Except SyntaxFault State :=
  tokens.foldlM advance state

variable {state next last : State} {token : Token} {tokens others : List Token}

theorem run_cons (state : State) (token : Token) (tokens : List Token) :
    state.run (token :: tokens) = state.advance token >>= fun next => next.run tokens := rfl

theorem run_append (state : State) (tokens others : List Token) :
    state.run (tokens ++ others) = state.run tokens >>= fun next => next.run others :=
  List.foldlM_append

theorem run_step (next : State) (step : state.advance token = .ok next)
    (later : next.run tokens = .ok last) :
    state.run (token :: tokens) = .ok last := by
  rw [run_cons, step]
  exact later

theorem run_trans (first : state.run tokens = .ok next) (later : next.run others = .ok last) :
    state.run (tokens ++ others) = .ok last := by
  rw [run_append, first]
  exact later

theorem run_single (step : state.advance token = .ok next) : state.run [token] = .ok next :=
  run_step next step rfl

end State

theorem foldlM_readPlaced_eq_ok {state last : State} {placed : List PlacedToken} :
    placed.foldlM readPlaced state = .ok last ↔ state.run (placed.map (·.token)) = .ok last := by
  induction placed generalizing state with
  | nil =>
      constructor
      · rintro ⟨⟩
        rfl
      · rintro ⟨⟩
        rfl
  | cons first placed ih =>
      rw [List.foldlM_cons, List.map_cons, State.run_cons, Result.bind_eq_ok, Result.bind_eq_ok]
      simp only [ih, readPlaced, Result.mapError_eq_ok]

theorem parseTokens_eq_ok {placed : List PlacedToken} {stop : Nat} {p : Predicate} :
    parseTokens placed stop = .ok p ↔
      ∃ last, State.start.run (placed.map (·.token)) = .ok last ∧ last.finish = .ok p := by
  rw [parseTokens, Result.bind_eq_ok]
  simp only [foldlM_readPlaced_eq_ok, Result.mapError_eq_ok]

/-! ## Literals -/

theorem derivesLiteral_iff {tokens : List Token} {value : Value} :
    DerivesLiteral tokens value ↔ ∃ negative token,
      tokens = optional negative (.symbol .minus) ++ [token] ∧
        literalPart negative token = .ok (.value value) := by
  constructor
  · intro derived
    cases derived with
    | string text => exact ⟨false, .string text, rfl, rfl⟩
    | true => exact ⟨false, .keyword .true, rfl, rfl⟩
    | false => exact ⟨false, .keyword .false, rfl, rfl⟩
    | @number negative literal _ found =>
        exact ⟨negative, .number literal, rfl, by simp only [literalPart, found]⟩
  · rintro ⟨negative, token, rfl, read⟩
    unfold literalPart at read
    split at read
    · split at read
      next found =>
        cases read
        exact .number found
      next => cases read
    all_goals cases negative <;> cases read
    · exact .string _
    · exact .true
    · exact .false

namespace State

variable {state next : State} {tokens : List Token} {value : Value} {subject : Subject}
  {negated : Bool}

/-- A literal is read from one phase, or from the one behind its minus sign. -/
theorem run_literal {plain signed : Phase} (derived : DerivesLiteral tokens value)
    (sign : (state.expecting plain).advance (.symbol .minus) = .ok (state.expecting signed))
    (read : ∀ token, literalPart false token = .ok (.value value) →
      (state.expecting plain).advance token = .ok next)
    (readSigned : ∀ token, literalPart true token = .ok (.value value) →
      (state.expecting signed).advance token = .ok next) :
    (state.expecting plain).run tokens = .ok next := by
  obtain ⟨negative, token, rfl, part⟩ := derivesLiteral_iff.mp derived
  cases negative with
  | false => exact run_single (read token part)
  | true => exact run_step _ sign (run_single (readSigned token part))

theorem run_comparand {comparison : Comparison} (derived : DerivesLiteral tokens value) :
    (state.expecting (.comparand subject comparison false)).run tokens =
      .ok (state.completing (subject.compare comparison value)) := by
  have read (negative : Bool) (token : Token)
      (part : literalPart negative token = .ok (.value value)) :
      (state.expecting (.comparand subject comparison negative)).advance token =
        .ok (state.completing (subject.compare comparison value)) := by
    simp only [advance, expecting, part]
    rfl
  exact run_literal derived rfl (read false) (read true)

theorem advance_listItem {values : List Value} {negative : Bool} {token : Token}
    (part : literalPart negative token = .ok (.value value)) :
    (state.expecting (.listItem subject negated values negative)).advance token =
      .ok (state.expecting (.listRest subject negated (value :: values))) := by
  simp only [advance, expecting, part]
  rfl

theorem run_listItem {values : List Value} (derived : DerivesLiteral tokens value) :
    (state.expecting (.listItem subject negated values false)).run tokens =
      .ok (state.expecting (.listRest subject negated (value :: values))) :=
  run_literal derived rfl (fun _ => advance_listItem) fun _ => advance_listItem

/-- The first literal of a list is read like the others. -/
theorem run_listHead (derived : DerivesLiteral tokens value) :
    (state.expecting (.listHead subject negated)).run tokens =
      .ok (state.expecting (.listRest subject negated [value])) := by
  refine run_literal derived rfl ?_ fun _ => advance_listItem
  intro token part
  have literal : token ≠ .symbol .rightParen := by
    rintro rfl
    cases part
  simp only [advance, expecting, if_neg literal, part]
  rfl

theorem run_listRest {values : List Value} {rest : List (Part Value)}
    (each : ∀ part ∈ rest, DerivesLiteral part.tokens part.meaning) :
    (state.expecting (.listRest subject negated values)).run
        (rest.flatMap fun part => .symbol .comma :: part.tokens) =
      .ok (state.expecting
        (.listRest subject negated ((rest.map (·.meaning)).reverse ++ values))) := by
  induction rest generalizing values with
  | nil => rfl
  | cons part rest ih =>
      obtain ⟨first, others⟩ := List.forall_mem_cons.mp each
      rw [List.flatMap_cons, List.map_cons, List.reverse_cons, List.append_assoc]
      refine run_step (state.expecting (.listItem subject negated values false)) rfl ?_
      exact run_trans (run_listItem first) (ih others)

theorem run_list {values : List Value} (derived : DerivesLiterals tokens values) :
    (state.expecting (.listHead subject negated)).run (tokens ++ [.symbol .rightParen]) =
      .ok (state.completing
        (.leaf negated (.among subject.target subject.property values))) := by
  cases derived with
  | none =>
      apply run_single
      cases negated <;> rfl
  | @some first rest each =>
      obtain ⟨head, others⟩ := List.forall_mem_cons.mp each
      refine run_trans (run_trans (run_listHead head) (run_listRest others)) (run_single ?_)
      simp [advance, expecting, completing, Subject.among, Predicate.ofLeaf,
        Predicate.withNegation]

/-! ## Comparisons -/

theorem run_target (state : State) (derived : DerivesTarget tokens subject) :
    (state.expecting .operand).run tokens = .ok (state.expecting (.operator subject)) := by
  cases derived <;> rfl

/-- An optional `not` and the word behind it choose between two forms of one operator. -/
theorem run_operatorWord (state : State) (subject : Subject) (negated : Bool) (word : Keyword)
    (phase : Bool → Phase)
    (plain : (state.expecting (.operator subject)).advance (.keyword word) =
      .ok (state.expecting (phase false)))
    (inverted : (state.expecting (.negatedOperator subject)).advance (.keyword word) =
      .ok (state.expecting (phase true))) :
    (state.expecting (.operator subject)).run
        (optional negated (.keyword .not) ++ [.keyword word]) =
      .ok (state.expecting (phase negated)) := by
  cases negated with
  | false => exact run_single plain
  | true =>
      exact run_step (state.expecting (.negatedOperator subject)) rfl
        (run_single inverted)

theorem run_comparison {p : Predicate} (derived : DerivesComparison tokens p) :
    (state.expecting .operand).run tokens = .ok (state.completing p) := by
  cases derived with
  | @ordering _ _ subject sign comparison _ target operator literal =>
      refine run_trans (run_target state target) ?_
      refine run_step (state.expecting (.comparand subject comparison false)) ?_
        (run_comparand literal)
      simp only [advance, expecting, readOperator, operator]
  | @among _ literals subject negated _ target list =>
      have word := run_operatorWord state subject negated .oneOf (.listStart subject) rfl rfl
      have bracket : (state.expecting (.listStart subject negated)).advance
          (.symbol .leftParen) = .ok (state.expecting (.listHead subject negated)) := rfl
      have opened := run_step _ bracket (run_list list)
      have read := run_trans (run_target state target) (run_trans word opened)
      simpa using read
  | @like _ subject negated pattern target =>
      have word := run_operatorWord state subject negated .like (.pattern subject ·) rfl rfl
      have closed : (state.expecting (.pattern subject negated)).run [.string pattern] =
          .ok (state.completing (.leaf negated
            (.compare subject.target .like subject.property (.string pattern)))) := by
        apply run_single
        cases negated <;> rfl
      have read := run_trans (run_target state target) (run_trans word closed)
      simpa using read

end State

/-! ## Predicates -/

theorem withNegation_ofLeaf (l : Leaf) (flag : Bool) :
    (Predicate.ofLeaf l).withNegation flag = .leaf flag l := by
  rw [Predicate.ofLeaf, Predicate.withNegation, Bool.false_xor]

theorem withNegation_negate (p : Predicate) (flag : Bool) :
    p.negate.withNegation flag = p.withNegation (!flag) := by
  cases p <;> simp [Predicate.negate, Predicate.withNegation]

theorem join_reverse (connective : Connective) (first : Predicate) (rest : List Predicate) :
    join connective (first :: rest).reverse = grouped connective first rest := by
  cases rest with
  | nil => rfl
  | cons second rest =>
      unfold join
      split
      next operand single =>
        have lengths := congrArg List.length single
        rw [List.length_reverse] at lengths
        cases lengths
      next =>
        rw [List.reverse_reverse]
        rfl

/-- What reading the tokens of a derivation does. Behind a conjunction its operands are
still apart, and behind a disjunction the level holds it. -/
def Nonterminal.IsRead (tokens : List Token) (p : Predicate) : Nonterminal → Prop
  | .or => ∀ outer, ∃ level,
    State.run ⟨outer, .empty, .operand⟩ tokens = .ok ⟨outer, level, .complete⟩ ∧
      level.close = p
  | .and => ∀ outer disjuncts, ∃ conjuncts,
    State.run ⟨outer, ⟨disjuncts, [], false⟩, .operand⟩ tokens =
        .ok ⟨outer, ⟨disjuncts, conjuncts, false⟩, .complete⟩ ∧
      join .and conjuncts = p
  | .not | .primary => ∀ state : State,
    (state.expecting .operand).run tokens = .ok (state.completing p)

theorem run_conjuncts {rest : List (Part Predicate)}
    (each : ∀ part ∈ rest, Nonterminal.not.IsRead part.tokens part.meaning)
    (outer : List Level) (disjuncts conjuncts : List Predicate) :
    State.run ⟨outer, ⟨disjuncts, conjuncts, false⟩, .complete⟩
        (rest.flatMap fun part => .keyword .and :: part.tokens) =
      .ok ⟨outer, ⟨disjuncts, (rest.map (·.meaning)).reverse ++ conjuncts, false⟩,
        .complete⟩ := by
  induction rest generalizing conjuncts with
  | nil => rfl
  | cons part rest ih =>
      obtain ⟨first, others⟩ := List.forall_mem_cons.mp each
      have read := first ⟨outer, ⟨disjuncts, conjuncts, false⟩, .operand⟩
      simp only [State.completing, Level.add, Predicate.withNegation_false] at read
      rw [List.flatMap_cons, List.map_cons, List.reverse_cons, List.append_assoc]
      refine State.run_step ⟨outer, ⟨disjuncts, conjuncts, false⟩, .operand⟩ rfl ?_
      exact State.run_trans read (ih others (part.meaning :: conjuncts))

theorem run_disjuncts {rest : List (Part Predicate)}
    (each : ∀ part ∈ rest, Nonterminal.and.IsRead part.tokens part.meaning)
    (outer : List Level) (disjuncts conjuncts : List Predicate) :
    ∃ level, State.run ⟨outer, ⟨disjuncts, conjuncts, false⟩, .complete⟩
        (rest.flatMap fun part => .keyword .or :: part.tokens) =
          .ok ⟨outer, level, .complete⟩ ∧
      level.endConjunction.disjuncts =
        (rest.map (·.meaning)).reverse ++ join .and conjuncts :: disjuncts := by
  induction rest generalizing disjuncts conjuncts with
  | nil => exact ⟨_, rfl, rfl⟩
  | cons part rest ih =>
      obtain ⟨first, others⟩ := List.forall_mem_cons.mp each
      obtain ⟨last, read, joined⟩ := first outer (join .and conjuncts :: disjuncts)
      obtain ⟨level, later, held⟩ := ih others (join .and conjuncts :: disjuncts) last
      refine ⟨level, ?_, ?_⟩
      · rw [List.flatMap_cons]
        refine State.run_step ⟨outer, ⟨join .and conjuncts :: disjuncts, [], false⟩, .operand⟩
          rfl ?_
        exact State.run_trans read later
      · rw [held, joined, List.map_cons, List.reverse_cons, List.append_assoc]
        rfl

theorem Derives.isRead {nonterminal : Nonterminal} {tokens : List Token} {p : Predicate}
    (derived : Derives nonterminal tokens p) : nonterminal.IsRead tokens p := by
  induction derived with
  | @or first rest _ ih =>
      intro outer
      obtain ⟨head, others⟩ := List.forall_mem_cons.mp ih
      obtain ⟨conjuncts, read, joined⟩ := head outer []
      obtain ⟨level, later, held⟩ := run_disjuncts others outer [] conjuncts
      refine ⟨level, State.run_trans read later, ?_⟩
      rw [Level.close, held, joined, ← join_reverse, List.reverse_cons]
  | @and first rest _ ih =>
      intro outer disjuncts
      obtain ⟨head, others⟩ := List.forall_mem_cons.mp ih
      have read := head ⟨outer, ⟨disjuncts, [], false⟩, .operand⟩
      simp only [State.completing, Level.add, Predicate.withNegation_false] at read
      refine ⟨_, State.run_trans read (run_conjuncts others outer disjuncts [first.meaning]), ?_⟩
      rw [← join_reverse, List.reverse_cons]
  | @inverted tokens p _ ih =>
      intro state
      have read := ih { state with level := { state.level with negated := !state.level.negated } }
      refine State.run_step _ rfl (read.trans ?_)
      simp only [State.completing, Level.add, withNegation_negate]
  | plain _ ih => exact ih
  | @parenthesized tokens p _ ih =>
      intro state
      obtain ⟨level, read, closed⟩ := ih (state.level :: state.outer)
      refine State.run_step ⟨state.level :: state.outer, .empty, .operand⟩ rfl ?_
      refine State.run_trans read (State.run_single ?_)
      rw [← closed]
      rfl
  | always => exact fun state => rfl
  | never => exact fun state => rfl
  | comparison derived => exact fun state => State.run_comparison derived

/-- Tokens that derive from the first nonterminal are accepted, with the predicate that the
derivation denotes. -/
theorem Derives.parseTokens {placed : List PlacedToken} {p : Predicate}
    (derived : Derives .or (placed.map (·.token)) p) (stop : Nat) :
    parseTokens placed stop = .ok p := by
  obtain ⟨level, read, closed⟩ := derived.isRead []
  exact parseTokens_eq_ok.mpr ⟨_, read, congrArg Except.ok closed⟩

end RecordFilter.Filter
