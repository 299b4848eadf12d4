import RecordFilter.Proofs.Filter.Completeness

/-!
# What is read derives

Between two tokens the parser holds a part of a derivation: around each open parenthesis the
operands read so far and the `not`s before the next one, and inside the innermost one the
part of an operand that its phase tells. Every token extends that part, so a state from which
a predicate can be taken holds a derivation of it.
-/

set_option autoImplicit false

namespace RecordFilter.Filter

/-! ## Parts of a chain -/

section Preceding

variable {α : Type} {item : List Token → α → Prop} {sign : Token}

/-- Items with a sign behind each, the last one first. -/
inductive Preceding (item : List Token → α → Prop) (sign : Token) : List Token → List α → Prop where
  | none : Preceding item sign [] []
  | next {before tokens : List Token} {meanings : List α} {meaning : α} :
      Preceding item sign before meanings → item tokens meaning →
      Preceding item sign (before ++ tokens ++ [sign]) (meaning :: meanings)

/-- With one item more the items make up a chain. -/
theorem Preceding.exists_chain {before tokens : List Token} {meanings : List α} {meaning : α}
    (preceding : Preceding item sign before meanings) (last : item tokens meaning) :
    ∃ (first : Part α) (rest : List (Part α)),
      (∀ part ∈ first :: rest, item part.tokens part.meaning) ∧
      before ++ tokens = first.chain sign rest ∧
      (meaning :: meanings).reverse = first.meaning :: rest.map (·.meaning) := by
  induction preceding generalizing tokens meaning with
  | none => exact ⟨⟨tokens, meaning⟩, [], by simpa using last, by simp [Part.chain], rfl⟩
  | next _ previous ih =>
      obtain ⟨first, rest, each, spelled, denoted⟩ := ih previous
      refine ⟨first, rest ++ [⟨tokens, meaning⟩], ?_, ?_, ?_⟩
      · intro part member
        rw [← List.cons_append] at member
        rcases List.mem_append.mp member with earlier | final
        · exact each part earlier
        · rw [List.mem_singleton.mp final]
          exact last
      · rw [spelled]
        simp [Part.chain]
      · rw [List.reverse_cons, denoted]
        simp

end Preceding

theorem Preceding.derivesLiterals {before tokens : List Token} {values : List Value}
    {value : Value} (preceding : Preceding DerivesLiteral (.symbol .comma) before values)
    (last : DerivesLiteral tokens value) :
    DerivesLiterals (before ++ tokens) (value :: values).reverse := by
  obtain ⟨first, rest, each, spelled, denoted⟩ := preceding.exists_chain last
  rw [spelled, denoted]
  exact .some each

theorem Preceding.derives_and {before tokens : List Token} {conjuncts : List Predicate}
    {p : Predicate} (preceding : Preceding (Derives .not) (.keyword .and) before conjuncts)
    (last : Derives .not tokens p) :
    Derives .and (before ++ tokens) (join .and (p :: conjuncts)) := by
  obtain ⟨first, rest, each, spelled, denoted⟩ := preceding.exists_chain last
  rw [spelled, ← List.reverse_reverse (p :: conjuncts), denoted, join_reverse]
  exact .and each

theorem Preceding.derives_or {before tokens : List Token} {disjuncts : List Predicate}
    {p : Predicate} (preceding : Preceding (Derives .and) (.keyword .or) before disjuncts)
    (last : Derives .and tokens p) :
    Derives .or (before ++ tokens) (join .or (p :: disjuncts)) := by
  obtain ⟨first, rest, each, spelled, denoted⟩ := preceding.exists_chain last
  rw [spelled, ← List.reverse_reverse (p :: disjuncts), denoted, join_reverse]
  exact .or each

/-- Any number of `not`s, and whether it is odd. -/
inductive Inversions : List Token → Bool → Prop where
  | none : Inversions [] false
  | more {tokens : List Token} {negated : Bool} :
      Inversions tokens negated → Inversions (tokens ++ [.keyword .not]) (!negated)

theorem Inversions.derives {before tokens : List Token} {negated : Bool} {p : Predicate}
    (inversions : Inversions before negated) (operand : Derives .not tokens p) :
    Derives .not (before ++ tokens) (p.withNegation negated) := by
  induction inversions generalizing tokens p with
  | none => rwa [List.nil_append, Predicate.withNegation_false]
  | @more _ negated _ ih =>
      have inner := ih operand.inverted
      rwa [withNegation_negate, List.append_cons] at inner

/-! ## Levels -/

namespace Level

/-- What has been read at a level when an operand has to come. -/
inductive Opened : Level → List Token → Prop where
  | mk {disjuncts conjuncts : List Predicate} {negated : Bool} {ors ands nots : List Token} :
      Preceding (Derives .and) (.keyword .or) ors disjuncts →
      Preceding (Derives .not) (.keyword .and) ands conjuncts → Inversions nots negated →
      Opened ⟨disjuncts, conjuncts, negated⟩ (ors ++ ands ++ nots)

/-- What has been read at a level when an operand is complete. -/
inductive Filled : Level → List Token → Prop where
  | mk {disjuncts conjuncts : List Predicate} {p : Predicate} {ors ands operand : List Token} :
      Preceding (Derives .and) (.keyword .or) ors disjuncts →
      Preceding (Derives .not) (.keyword .and) ands conjuncts → Derives .not operand p →
      Filled ⟨disjuncts, p :: conjuncts, false⟩ (ors ++ ands ++ operand)

variable {level : Level} {tokens operand : List Token} {p : Predicate}

theorem opened_empty : Opened .empty [] :=
  .mk .none .none .none

theorem Opened.invert (opened : level.Opened tokens) :
    Opened { level with negated := !level.negated } (tokens ++ [.keyword .not]) := by
  cases opened with
  | mk ors ands nots =>
      rw [List.append_assoc]
      exact .mk ors ands nots.more

theorem Opened.add (opened : level.Opened tokens) (derived : Derives .primary operand p) :
    (level.add p).Filled (tokens ++ operand) := by
  cases opened with
  | mk ors ands nots =>
      rw [List.append_assoc]
      exact .mk ors ands (nots.derives derived.plain)

theorem Filled.and (filled : level.Filled tokens) :
    level.Opened (tokens ++ [.keyword .and]) := by
  cases filled with
  | @mk disjuncts conjuncts p ors ands operand before within last =>
      have opened := Opened.mk before (within.next last) .none
      rwa [List.append_nil, ← List.append_assoc, ← List.append_assoc] at opened

theorem Filled.or (filled : level.Filled tokens) :
    level.endConjunction.Opened (tokens ++ [.keyword .or]) := by
  cases filled with
  | @mk disjuncts conjuncts p ors ands operand before within last =>
      have opened := Opened.mk (before.next (within.derives_and last)) .none .none
      rwa [List.append_nil, List.append_nil, ← List.append_assoc] at opened

theorem Filled.close (filled : level.Filled tokens) : Derives .or tokens level.close := by
  cases filled with
  | @mk disjuncts conjuncts p ors ands operand before within last =>
      rw [List.append_assoc]
      exact before.derives_or (within.derives_and last)

end Level

/-- What has been read in front of the innermost open parenthesis, it included. -/
inductive Enclosing : List Level → List Token → Prop where
  | none : Enclosing [] []
  | parenthesis {level : Level} {outer : List Level} {before tokens : List Token} :
      Enclosing outer before → level.Opened tokens →
      Enclosing (level :: outer) (before ++ tokens ++ [.symbol .leftParen])

/-! ## Phases -/

/-- What has been read of an operand in a phase. In the phase `complete` nothing has been
read of the next one, and none may come. -/
inductive Phase.Begun : Phase → List Token → Prop where
  | operand : Begun .operand []
  | metadataDot : Begun .metadataDot [.keyword .metadata]
  | metadataName : Begun .metadataName [.keyword .metadata, .symbol .dot]
  | operator {subject : Subject} {target : List Token} :
      DerivesTarget target subject → Begun (.operator subject) target
  | negatedOperator {subject : Subject} {target : List Token} :
      DerivesTarget target subject →
      Begun (.negatedOperator subject) (target ++ [.keyword .not])
  | comparand {subject : Subject} {target : List Token} {sign : Symbol} {comparison : Comparison}
      {signed : Bool} :
      DerivesTarget target subject → comparison? sign = some comparison →
      Begun (.comparand subject comparison signed)
        (target ++ .symbol sign :: optional signed (.symbol .minus))
  | pattern {subject : Subject} {target : List Token} {negated : Bool} :
      DerivesTarget target subject →
      Begun (.pattern subject negated)
        (target ++ optional negated (.keyword .not) ++ [.keyword .like])
  | listStart {subject : Subject} {target : List Token} {negated : Bool} :
      DerivesTarget target subject →
      Begun (.listStart subject negated)
        (target ++ optional negated (.keyword .not) ++ [.keyword .oneOf])
  | listHead {subject : Subject} {target : List Token} {negated : Bool} :
      DerivesTarget target subject →
      Begun (.listHead subject negated)
        (target ++ optional negated (.keyword .not) ++ [.keyword .oneOf, .symbol .leftParen])
  | listItem {subject : Subject} {target items : List Token} {negated signed : Bool}
      {values : List Value} :
      DerivesTarget target subject → Preceding DerivesLiteral (.symbol .comma) items values →
      Begun (.listItem subject negated values signed)
        (target ++ optional negated (.keyword .not) ++
          .keyword .oneOf :: .symbol .leftParen :: items ++ optional signed (.symbol .minus))
  | listRest {subject : Subject} {target items literal : List Token} {negated : Bool}
      {values : List Value} {value : Value} :
      DerivesTarget target subject → Preceding DerivesLiteral (.symbol .comma) items values →
      DerivesLiteral literal value →
      Begun (.listRest subject negated (value :: values))
        (target ++ optional negated (.keyword .not) ++
          .keyword .oneOf :: .symbol .leftParen :: items ++ literal)

theorem literalPart_eq_sign {signed : Bool} {token : Token}
    (read : literalPart signed token = .ok .sign) : signed = false ∧ token = .symbol .minus := by
  unfold literalPart at read
  split at read
  · split at read <;> cases read
  all_goals cases signed <;> cases read
  exact ⟨rfl, rfl⟩

theorem derivesLiteral_of_literalPart {signed : Bool} {token : Token} {value : Value}
    (read : literalPart signed token = .ok (.value value)) :
    DerivesLiteral (optional signed (.symbol .minus) ++ [token]) value :=
  derivesLiteral_iff.mpr ⟨signed, token, rfl, read⟩

namespace State

/-- A token that belongs to an operand extends it or completes it. -/
inductive Continues (state : State) (operand : List Token) : State → Prop where
  | expecting {phase : Phase} : phase.Begun operand → Continues state operand (state.expecting phase)
  | completing {p : Predicate} :
      Derives .primary operand p → Continues state operand (state.completing p)

section Steps

variable {state next : State} {token : Token} {subject : Subject} {target : List Token}
  {negated : Bool}

theorem continues_metadataDot (step : (state.expecting .metadataDot).advance token = .ok next) :
    Continues state ([.keyword .metadata] ++ [token]) next := by
  simp only [advance, expecting] at step
  split at step
  next dot =>
    cases step
    rw [dot]
    exact .expecting .metadataName
  next => cases step

theorem continues_metadataName
    (step : (state.expecting .metadataName).advance token = .ok next) :
    Continues state ([.keyword .metadata, .symbol .dot] ++ [token]) next := by
  simp only [advance, expecting] at step
  split at step
  next name =>
    cases step
    exact .expecting (.operator (.metadata name))
  next => cases step

theorem continues_operator (known : DerivesTarget target subject)
    (step : (state.expecting (.operator subject)).advance token = .ok next) :
    Continues state (target ++ [token]) next := by
  simp only [advance, expecting, readOperator] at step
  split at step
  · cases step
    exact .expecting (.negatedOperator known)
  · cases step
    have begun : (Phase.listStart subject false).Begun (target ++ [] ++ [.keyword .oneOf]) :=
      .listStart known
    rw [List.append_nil] at begun
    exact .expecting begun
  · cases step
    have begun : (Phase.pattern subject false).Begun (target ++ [] ++ [.keyword .like]) :=
      .pattern known
    rw [List.append_nil] at begun
    exact .expecting begun
  · split at step
    next comparison operator =>
      cases step
      exact .expecting (.comparand known operator)
    next => cases step
  · cases step

theorem continues_negatedOperator (known : DerivesTarget target subject)
    (step : (state.expecting (.negatedOperator subject)).advance token = .ok next) :
    Continues state (target ++ [.keyword .not] ++ [token]) next := by
  simp only [advance, expecting] at step
  split at step
  next word =>
    cases step
    rw [word]
    exact .expecting (.listStart known)
  next =>
    split at step
    next word =>
      cases step
      rw [word]
      exact .expecting (.pattern known)
    next => cases step

theorem continues_comparand {sign : Symbol} {comparison : Comparison} {signed : Bool}
    (known : DerivesTarget target subject) (operator : comparison? sign = some comparison)
    (step : (state.expecting (.comparand subject comparison signed)).advance token = .ok next) :
    Continues state (target ++ .symbol sign :: optional signed (.symbol .minus) ++ [token])
      next := by
  obtain ⟨part, read, later⟩ := Result.bind_eq_ok.mp step
  rw [List.append_assoc, List.cons_append]
  cases part with
  | value value =>
      cases later
      exact .completing (.comparison
        (.ordering known operator (derivesLiteral_of_literalPart read)))
  | sign =>
      obtain ⟨rfl, rfl⟩ := literalPart_eq_sign read
      cases later
      exact .expecting (.comparand known operator)
  | none => cases later

theorem continues_pattern (known : DerivesTarget target subject)
    (step : (state.expecting (.pattern subject negated)).advance token = .ok next) :
    Continues state
      (target ++ optional negated (.keyword .not) ++ [.keyword .like] ++ [token]) next := by
  simp only [advance, expecting] at step
  split at step
  next text =>
    cases step
    rw [List.append_assoc, Subject.compare, withNegation_ofLeaf]
    exact .completing (.comparison (.like known))
  next => cases step

theorem continues_listStart (known : DerivesTarget target subject)
    (step : (state.expecting (.listStart subject negated)).advance token = .ok next) :
    Continues state
      (target ++ optional negated (.keyword .not) ++ [.keyword .oneOf] ++ [token]) next := by
  simp only [advance, expecting] at step
  split at step
  next bracket =>
    cases step
    rw [bracket, List.append_assoc]
    exact .expecting (.listHead known)
  next => cases step

theorem continues_listItem {values : List Value} {items : List Token} {signed : Bool}
    (known : DerivesTarget target subject)
    (preceding : Preceding DerivesLiteral (.symbol .comma) items values)
    (step : (state.expecting (.listItem subject negated values signed)).advance token =
      .ok next) :
    Continues state
      (target ++ optional negated (.keyword .not) ++
        .keyword .oneOf :: .symbol .leftParen :: items ++ optional signed (.symbol .minus) ++
          [token]) next := by
  obtain ⟨part, read, later⟩ := Result.bind_eq_ok.mp step
  rw [List.append_assoc _ (optional signed _)]
  cases part with
  | value value =>
      cases later
      exact .expecting (.listRest known preceding (derivesLiteral_of_literalPart read))
  | sign =>
      obtain ⟨rfl, rfl⟩ := literalPart_eq_sign read
      cases later
      exact .expecting (.listItem known preceding)
  | none => cases later

/-- The end of a list completes the operand. -/
theorem completing_list (state : State) (negated : Bool) {values : List Value}
    {literals : List Token} (known : DerivesTarget target subject)
    (list : DerivesLiterals literals values.reverse) :
    Continues state
      (target ++ optional negated (.keyword .not) ++
        .keyword .oneOf :: .symbol .leftParen :: literals ++ [.symbol .rightParen])
      (state.completing ((subject.among values).withNegation negated)) := by
  rw [Subject.among, withNegation_ofLeaf]
  exact .completing (.comparison (.among known list))

theorem continues_listHead (known : DerivesTarget target subject)
    (step : (state.expecting (.listHead subject negated)).advance token = .ok next) :
    Continues state
      (target ++ optional negated (.keyword .not) ++ [.keyword .oneOf, .symbol .leftParen] ++
        [token]) next := by
  by_cases bracket : token = .symbol .rightParen
  · simp only [advance, expecting, if_pos bracket] at step
    cases step
    rw [bracket]
    exact completing_list _ _ known .none
  · -- what is no end of the list is read like any other literal of it
    have item : (state.expecting (.listItem subject negated [] false)).advance token =
        .ok next := by
      simp only [advance, expecting, if_neg bracket] at step
      exact step
    have continued := continues_listItem known .none item
    rwa [optional_false, List.append_nil] at continued

theorem continues_listRest {values : List Value} {value : Value} {items literal : List Token}
    (known : DerivesTarget target subject)
    (preceding : Preceding DerivesLiteral (.symbol .comma) items values)
    (last : DerivesLiteral literal value)
    (step : (state.expecting (.listRest subject negated (value :: values))).advance token =
      .ok next) :
    Continues state
      (target ++ optional negated (.keyword .not) ++
        .keyword .oneOf :: .symbol .leftParen :: items ++ literal ++ [token]) next := by
  simp only [advance, expecting] at step
  split at step
  next comma =>
    cases step
    rw [comma]
    have begun : (Phase.listItem subject negated (value :: values) false).Begun
        (target ++ optional negated (.keyword .not) ++
          .keyword .oneOf :: .symbol .leftParen :: (items ++ literal ++ [.symbol .comma]) ++
            []) := .listItem known (preceding.next last)
    exact .expecting (by simpa using begun)
  next =>
    split at step
    next bracket =>
      cases step
      rw [bracket]
      have completed := completing_list state negated known (preceding.derivesLiterals last)
      simpa [completing] using completed
    next => cases step

end Steps

/-! ## The invariant -/

/-- The tokens that a state has been reached by, split into what it holds. -/
inductive Reflects : State → List Token → Prop where
  | reading {outer : List Level} {level : Level} {phase : Phase}
      {before tokens operand : List Token} :
      Enclosing outer before → level.Opened tokens → phase.Begun operand →
      Reflects ⟨outer, level, phase⟩ (before ++ tokens ++ operand)
  | complete {outer : List Level} {level : Level} {before tokens : List Token} :
      Enclosing outer before → level.Filled tokens →
      Reflects ⟨outer, level, .complete⟩ (before ++ tokens)

theorem reflects_start : start.Reflects [] :=
  .reading .none Level.opened_empty .operand

variable {state next : State} {token : Token}

theorem Continues.reflects {before tokens operand : List Token}
    (continued : state.Continues operand next) (enclosing : Enclosing state.outer before)
    (opened : state.level.Opened tokens) : next.Reflects (before ++ tokens ++ operand) := by
  cases continued with
  | expecting begun => exact .reading enclosing opened begun
  | completing derived =>
      rw [List.append_assoc]
      exact .complete enclosing (opened.add derived)

theorem reflects_readOperand {before tokens : List Token}
    (enclosing : Enclosing state.outer before) (opened : state.level.Opened tokens)
    (waiting : state.phase = .operand) (step : state.readOperand token = .ok next) :
    next.Reflects (before ++ tokens ++ [token]) := by
  unfold readOperand at step
  split at step
  · cases step
    have inverted := Reflects.reading enclosing opened.invert .operand
    rwa [List.append_nil, ← List.append_assoc, ← waiting] at inverted
  · cases step
    have inner := Reflects.reading (.parenthesis enclosing opened) Level.opened_empty .operand
    rwa [List.append_nil, List.append_nil] at inner
  · cases step
    exact (Continues.completing .always).reflects enclosing opened
  · cases step
    exact (Continues.completing .never).reflects enclosing opened
  · cases step
    exact (Continues.expecting (.operator .key)).reflects enclosing opened
  · cases step
    exact (Continues.expecting .metadataDot).reflects enclosing opened
  · cases step
    exact (Continues.expecting (.operator (.field _))).reflects enclosing opened
  · cases step

theorem reflects_readJoint {before tokens : List Token} (enclosing : Enclosing state.outer before)
    (filled : state.level.Filled tokens) (step : state.readJoint token = .ok next) :
    next.Reflects (before ++ tokens ++ [token]) := by
  unfold readJoint at step
  split at step
  · cases step
    have joined := Reflects.reading enclosing filled.and .operand
    rwa [List.append_nil, ← List.append_assoc] at joined
  · cases step
    have joined := Reflects.reading enclosing filled.or .operand
    rwa [List.append_nil, ← List.append_assoc] at joined
  · split at step
    next level outer nested =>
      cases step
      rw [nested] at enclosing
      cases enclosing with
      | parenthesis around opened =>
          have closed := Reflects.complete around
            (opened.add (.parenthesized filled.close))
          simpa using closed
    next => cases step
  · cases step

/-- What one token preserves. -/
theorem Reflects.advance {tokens : List Token} (reflects : state.Reflects tokens)
    (step : state.advance token = .ok next) : next.Reflects (tokens ++ [token]) := by
  cases reflects with
  | complete enclosing filled => exact reflects_readJoint enclosing filled step
  | @reading outer level phase before tokens operand enclosing opened begun =>
      have extended (continued : Continues ⟨outer, level, .operand⟩ (operand ++ [token]) next) :
          next.Reflects (before ++ tokens ++ operand ++ [token]) := by
        rw [List.append_assoc]
        exact continued.reflects enclosing opened
      cases begun with
      | operand =>
          rw [List.append_nil]
          exact reflects_readOperand enclosing opened rfl step
      | metadataDot => exact extended (continues_metadataDot step)
      | metadataName => exact extended (continues_metadataName step)
      | operator known => exact extended (continues_operator known step)
      | negatedOperator known => exact extended (continues_negatedOperator known step)
      | comparand known operator => exact extended (continues_comparand known operator step)
      | pattern known => exact extended (continues_pattern known step)
      | listStart known => exact extended (continues_listStart known step)
      | listHead known => exact extended (continues_listHead known step)
      | listItem known preceding => exact extended (continues_listItem known preceding step)
      | listRest known preceding last =>
          exact extended (continues_listRest known preceding last step)

/-- What a run preserves. -/
theorem Reflects.run {tokens others : List Token} {last : State}
    (reflects : state.Reflects tokens) (run : state.run others = .ok last) :
    last.Reflects (tokens ++ others) := by
  induction others generalizing state tokens with
  | nil =>
      cases run
      rwa [List.append_nil]
  | cons token others ih =>
      obtain ⟨next, step, later⟩ := Result.bind_eq_ok.mp run
      rw [List.append_cons]
      exact ih (reflects.advance step) later

theorem Reflects.finish {tokens : List Token} {p : Predicate} (reflects : state.Reflects tokens)
    (finished : state.finish = .ok p) : Derives .or tokens p := by
  cases reflects with
  | @reading outer level phase before tokens operand enclosing opened begun =>
      cases begun <;> cases finished
  | @complete outer level before tokens enclosing filled =>
      cases enclosing with
      | none =>
          cases finished
          exact filled.close
      | parenthesis around opened => cases finished

end State

theorem derives_of_parseTokens {placed : List PlacedToken} {stop : Nat} {p : Predicate}
    (accepted : parseTokens placed stop = .ok p) : Derives .or (placed.map (·.token)) p := by
  obtain ⟨last, run, finished⟩ := parseTokens_eq_ok.mp accepted
  exact (State.reflects_start.run run).finish finished

end RecordFilter.Filter
