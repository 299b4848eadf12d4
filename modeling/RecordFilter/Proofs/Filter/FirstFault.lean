import RecordFilter.Filter.Parser
import RecordFilter.Proofs.Filter.Completeness
import RecordFilter.Proofs.Filter.Positions

/-!
# The first token that cannot be right

From every state of the parser some tokens lead to the end of a filter, so the tokens before
a fault can always be continued to a filter. A token that is refused is refused whatever
comes after it. The place of a syntax error is thus that of the first token with which no
filter goes on.
-/

set_option autoImplicit false

namespace RecordFilter.Filter

/-- A filter is read up to the first end of a text, and what stands behind it is not read. -/
def IsAccepted (tokens : List PlacedToken) : Prop :=
  ∃ body stop others p,
    tokens = body ++ ⟨.endOfText, stop⟩ :: others ∧ parseTokens body stop = .ok p

namespace State

/-! ## Completions -/

/-- Some tokens lead from the state to the end of a filter. -/
def IsViable (state : State) : Prop :=
  ∃ tokens last p, state.run tokens = .ok last ∧ last.finish = .ok p

theorem IsViable.of_run {state next : State} {tokens : List Token} (viable : next.IsViable)
    (run : state.run tokens = .ok next) : state.IsViable := by
  obtain ⟨others, last, p, later, finished⟩ := viable
  exact ⟨tokens ++ others, last, p, run_trans run later, finished⟩

theorem IsViable.of_step {state next : State} (viable : next.IsViable) (token : Token)
    (step : state.advance token = .ok next) : state.IsViable :=
  viable.of_run (run_single step)

/-- Behind an operand the open parentheses are closed, from the innermost out. -/
theorem isViable_complete (outer : List Level) (level : Level) :
    IsViable ⟨outer, level, .complete⟩ := by
  induction outer generalizing level with
  | nil => exact ⟨[], _, _, rfl, rfl⟩
  | cons next outer ih =>
      exact (ih (next.add level.close)).of_step (.symbol .rightParen) rfl

theorem isViable_completing (state : State) (p : Predicate) : (state.completing p).IsViable :=
  isViable_complete ..

def zeroToken : Token :=
  .number ⟨['0'], none⟩

theorem literalPart_zeroToken (signed : Bool) :
    literalPart signed zeroToken = .ok (.value (.int64 0)) := by
  cases signed <;> rfl

theorem isViable_comparand (state : State) (subject : Subject) (comparison : Comparison)
    (signed : Bool) : (state.expecting (.comparand subject comparison signed)).IsViable := by
  apply (isViable_completing state (subject.compare comparison (.int64 0))).of_step zeroToken
  simp only [advance, expecting, literalPart_zeroToken]
  rfl

theorem isViable_listRest (state : State) (subject : Subject) (negated : Bool)
    (values : List Value) : (state.expecting (.listRest subject negated values)).IsViable :=
  (isViable_completing state _).of_step (.symbol .rightParen) rfl

theorem isViable_listItem (state : State) (subject : Subject) (negated : Bool)
    (values : List Value) (signed : Bool) :
    (state.expecting (.listItem subject negated values signed)).IsViable :=
  (isViable_listRest ..).of_step zeroToken (advance_listItem (literalPart_zeroToken signed))

theorem isViable_listHead (state : State) (subject : Subject) (negated : Bool) :
    (state.expecting (.listHead subject negated)).IsViable :=
  (isViable_completing state _).of_step (.symbol .rightParen) rfl

theorem isViable_pattern (state : State) (subject : Subject) (negated : Bool) :
    (state.expecting (.pattern subject negated)).IsViable :=
  (isViable_completing state _).of_step (.string "") rfl

/-- The parser is never in a state from which no filter can be completed. -/
theorem isViable (state : State) : state.IsViable := by
  obtain ⟨outer, level, phase⟩ := state
  let state : State := ⟨outer, level, .operand⟩
  have operator (subject : Subject) : (state.expecting (.operator subject)).IsViable :=
    (isViable_comparand state subject .equal false).of_step (.symbol .equal) rfl
  have name : (state.expecting .metadataName).IsViable :=
    (operator ⟨.metadata, some ""⟩).of_step (.identifier "") rfl
  cases phase with
  | operand => exact (isViable_completing state _).of_step (.keyword .true) rfl
  | metadataDot => exact name.of_step (.symbol .dot) rfl
  | metadataName => exact name
  | operator subject => exact operator subject
  | negatedOperator subject =>
      exact (isViable_pattern state subject true).of_step (.keyword .like) rfl
  | comparand subject comparison signed => exact isViable_comparand state ..
  | pattern subject negated => exact isViable_pattern state ..
  | listStart subject negated =>
      exact (isViable_listHead state subject negated).of_step (.symbol .leftParen) rfl
  | listHead subject negated => exact isViable_listHead state ..
  | listItem subject negated values signed => exact isViable_listItem state ..
  | listRest subject negated values => exact isViable_listRest state ..
  | complete => exact isViable_complete outer level

/-! ## Refusals -/

/-- No reading goes on with the token, nor ends with it if it is the end of the text. -/
structure Refuses (state : State) (token : Token) : Prop where
  advance : ∀ next, state.advance token ≠ .ok next
  finish : token = .endOfText → ∀ p, state.finish ≠ .ok p

theorem advance_endOfText_ne_ok (state next : State) : state.advance .endOfText ≠ .ok next := by
  obtain ⟨outer, level, phase⟩ := state
  cases phase <;> exact nofun

theorem refuses_of_advance {state : State} {token : Token} {fault : SyntaxFault}
    (failed : state.advance token = .error fault) (inner : token ≠ .endOfText) :
    state.Refuses token where
  advance := fun _ step => nomatch failed.symm.trans step
  finish := fun same => absurd same inner

theorem refuses_of_finish {state : State} {fault : SyntaxFault}
    (failed : state.finish = .error fault) : state.Refuses .endOfText where
  advance := state.advance_endOfText_ne_ok
  finish := fun _ _ finished => nomatch failed.symm.trans finished

/-- A run takes every one of its tokens from a state on its way. -/
theorem exists_advance_of_run {state last : State} {before after : List Token} {token : Token}
    (run : state.run (before ++ token :: after) = .ok last) :
    ∃ next following, state.run before = .ok next ∧ next.advance token = .ok following := by
  rw [run_append] at run
  obtain ⟨next, first, later⟩ := Result.bind_eq_ok.mp run
  obtain ⟨following, step, _⟩ := Result.bind_eq_ok.mp later
  exact ⟨next, following, first, step⟩

end State

/-! ## Continuations -/

section Continuations

variable {before : List PlacedToken} {next : State}
  (reached : State.start.run (before.map (·.token)) = .ok next)

include reached

theorem exists_isAccepted_of_run : ∃ rest, IsAccepted (before ++ rest) := by
  obtain ⟨tokens, last, p, later, finished⟩ := next.isViable
  let placed : List PlacedToken := tokens.map (⟨·, 0⟩)
  refine ⟨placed ++ [⟨.endOfText, 0⟩], before ++ placed, 0, [], p, ?_, ?_⟩
  · rw [List.append_assoc]
  · have tokensRead : placed.map (·.token) = tokens := by
      rw [List.map_map]
      exact List.map_id tokens
    refine parseTokens_eq_ok.mpr ⟨last, ?_, finished⟩
    rw [List.map_append, tokensRead]
    exact State.run_trans reached later

theorem not_isAccepted_of_refuses {refused : PlacedToken} (refuses : next.Refuses refused.token)
    (rest : List PlacedToken) : ¬ IsAccepted (before ++ refused :: rest) := by
  rintro ⟨body, stop, others, p, same, parsed⟩
  obtain ⟨last, run, finished⟩ := parseTokens_eq_ok.mp parsed
  rcases List.append_eq_append_iff.mp same with ⟨middle, rfl, split⟩ | ⟨middle, rfl, split⟩
  · cases middle with
    | nil =>
        -- the refused token is the end of the text, and the body ends in front of it
        cases split
        rw [List.append_nil, reached] at run
        cases run
        exact refuses.finish rfl p finished
    | cons token middle =>
        cases split
        rw [List.map_append, List.map_cons] at run
        obtain ⟨state, following, first, step⟩ := State.exists_advance_of_run run
        cases reached.symm.trans first
        exact refuses.advance following step
  · cases middle with
    | nil =>
        cases split
        rw [List.append_nil, run] at reached
        cases reached
        exact refuses.finish rfl p finished
    | cons token middle =>
        -- an end of the text would have been read on the way
        cases split
        rw [List.map_append, List.map_cons] at reached
        obtain ⟨state, following, _, step⟩ := State.exists_advance_of_run reached
        exact state.advance_endOfText_ne_ok following step

end Continuations

/-! ## Places of errors -/

theorem foldlM_readPlaced_eq_error {state : State} {tokens : List PlacedToken}
    {error : SyntaxError} (failed : tokens.foldlM readPlaced state = .error error) :
    ∃ before refused after next,
      tokens = before ++ refused :: after ∧ state.run (before.map (·.token)) = .ok next ∧
        next.advance refused.token = .error error.fault ∧ error.position = refused.position := by
  induction tokens generalizing state with
  | nil => cases failed
  | cons first tokens ih =>
      rw [List.foldlM_cons] at failed
      cases step : state.advance first.token with
      | error fault =>
          rw [readPlaced, step] at failed
          cases failed
          exact ⟨[], first, tokens, state, rfl, rfl, step, rfl⟩
      | ok second =>
          rw [readPlaced, step] at failed
          obtain ⟨before, refused, after, next, rfl, run, refusal, place⟩ := ih failed
          exact ⟨first :: before, refused, after, next, rfl, State.run_step second step run,
            refusal, place⟩

theorem parseTokens_eq_error {tokens : List PlacedToken} {stop : Nat} {error : SyntaxError}
    (inner : ∀ placed ∈ tokens, placed.token ≠ .endOfText)
    (failed : parseTokens tokens stop = .error error) :
    ∃ before refused after next,
      tokens ++ [⟨.endOfText, stop⟩] = before ++ refused :: after ∧
        State.start.run (before.map (·.token)) = .ok next ∧ next.Refuses refused.token ∧
          error.position = refused.position := by
  rw [parseTokens] at failed
  rcases Result.bind_eq_error.mp failed with early | ⟨last, run, late⟩
  · obtain ⟨before, refused, after, next, rfl, run, refusal, place⟩ :=
      foldlM_readPlaced_eq_error early
    refine ⟨before, refused, after ++ [⟨.endOfText, stop⟩], next, ?_, run, ?_, place⟩
    · rw [List.append_assoc, List.cons_append]
    · exact State.refuses_of_advance refusal
        (inner refused (List.mem_append_right before List.mem_cons_self))
  · refine ⟨tokens, ⟨.endOfText, stop⟩, [], last, rfl, foldlM_readPlaced_eq_ok.mp run, ?_⟩
    cases finished : last.finish with
    | ok p =>
        rw [finished] at late
        cases late
    | error fault =>
        rw [finished] at late
        cases late
        exact ⟨State.refuses_of_finish finished, rfl⟩

/-- The place of a syntax error is the place of one token, the end of the text included. The
tokens before it begin some filter, and with it they begin none. It lies within the text
unless the token is the end. -/
theorem parse_eq_error_first {text : String} {stop : Nat} {error : SyntaxError}
    (lexed : (lex text).stop = .ok stop) (failed : parse text = .error error) :
    ∃ before refused after,
      (lex text).tokens ++ [⟨.endOfText, stop⟩] = before ++ refused :: after ∧
        error.position = refused.position ∧
          (∀ other ∈ before ++ after, other.position ≠ error.position) ∧
            (∃ rest, IsAccepted (before ++ rest)) ∧
              (∀ rest, ¬ IsAccepted (before ++ refused :: rest)) ∧
                error.position ≤ text.length ∧
                  (error.position = text.length ↔ refused.token = .endOfText) := by
  have spans := lex_spans text
  obtain rfl := spans.stops stop lexed
  have fault : parseTokens (lex text).tokens text.length = .error error := by
    rw [parse, lexed] at failed
    exact failed
  obtain ⟨before, refused, after, next, whole, reached, refuses, place⟩ :=
    parseTokens_eq_error spans.inner fault
  have ordered := pairwise_position_append_end lexed
  have member : refused ∈ (lex text).tokens ++ [⟨.endOfText, text.length⟩] := by
    rw [whole]
    exact List.mem_append_right before List.mem_cons_self
  rw [whole] at ordered
  obtain ⟨-, later, earlier⟩ := List.pairwise_append.mp ordered
  refine ⟨before, refused, after, whole, place, ?_, exists_isAccepted_of_run reached,
    not_isAccepted_of_refuses reached refuses, ?_⟩
  · intro other elsewhere
    rw [place]
    rcases List.mem_append.mp elsewhere with ahead | behind
    · exact Nat.ne_of_lt (earlier other ahead refused List.mem_cons_self)
    · exact Nat.ne_of_gt ((List.pairwise_cons.mp later).1 other behind)
  · rw [place]
    rcases List.mem_append.mp member with within | last
    · have inside := (spans.inside refused within).2
      exact ⟨Nat.le_of_lt inside,
        iff_of_false (Nat.ne_of_lt inside) (spans.inner refused within)⟩
    · rw [List.mem_singleton.mp last]
      exact ⟨Nat.le_refl _, iff_of_true rfl rfl⟩

/-- A number stands where a pattern has to come, in parentheses that are still open. -/
theorem parse_eq_error_first_pattern :
    (lex "(a = 1 and b like 2)").stop = .ok 20 ∧
      parse "(a = 1 and b like 2)" =
        .error ⟨18, .expected .pattern (.number ⟨['2'], none⟩)⟩ ∧
      ∃ before refused after,
        (lex "(a = 1 and b like 2)").tokens ++ [⟨.endOfText, 20⟩] = before ++ refused :: after ∧
          refused.position = 18 ∧ refused.token ≠ .endOfText ∧
            (∃ rest, IsAccepted (before ++ rest)) ∧
              ∀ rest, ¬ IsAccepted (before ++ refused :: rest) := by
  have lexed : (lex "(a = 1 and b like 2)").stop = .ok 20 := by decide +kernel
  have failed : parse "(a = 1 and b like 2)" =
      .error ⟨18, .expected .pattern (.number ⟨['2'], none⟩)⟩ :=
    Result.check_eq_error.mp (by decide +kernel)
  obtain ⟨before, refused, after, whole, place, _, continued, refusal, _, ends⟩ :=
    parse_eq_error_first lexed failed
  refine ⟨lexed, failed, before, refused, after, whole, place.symm, fun last => ?_, continued,
    refusal⟩
  exact absurd (ends.mpr last) (by decide)

end RecordFilter.Filter
