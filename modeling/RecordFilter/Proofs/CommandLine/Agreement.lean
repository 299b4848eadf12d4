import RecordFilter.CommandLine
import RecordFilter.Proofs.Filter.Logical
import RecordFilter.Proofs.Schema.CheckedQuery
import RecordFilter.Proofs.Schema.History
import RecordFilter.Proofs.Sql.Compilation

/-!
# The commands accept one language

A command that uses a filter, to ask the records or to make a statement, has nothing to
object to but what the parser and the checks of the demonstration collection object to,
and it says so in their words. Reading a filter is all that it takes to plan it.
-/

set_option autoImplicit false

namespace RecordFilter.CommandLine

open Sql (Compiler Dialect)

/-- A command that asks the records or makes a statement. -/
inductive Uses (filter : String) : Command → Prop where
  | eval : Uses filter (.eval filter)
  | statement (dialect : Dialect) (conditionOnly : Bool) :
      Uses filter (.statement filter dialect conditionOnly)

/-- What the parser and the checks of the demonstration collection say of a filter. -/
def verdict (filter : String) : Result Unit := do
  let p ← Predicate.ofText filter
  p.validate Demo.schema.resolver

theorem verdict_eq_ok_iff {filter : String} :
    verdict filter = .ok () ↔ ∃ p, Predicate.ofText filter = .ok p ∧
      p.validate Demo.schema.resolver = .ok () :=
  Result.bind_eq_ok

theorem verdict_eq_error_iff {filter : String} {cause : FilterError} :
    verdict filter = .error cause ↔ Predicate.ofText filter = .error cause ∨
      ∃ p, Predicate.ofText filter = .ok p ∧ p.validate Demo.schema.resolver = .error cause :=
  Result.bind_eq_error

/-! ## Outcomes -/

/-- A command that ends well, or with a cause that is printed behind some context. -/
def Outcome.Tells (outcome : Outcome) : Result Unit → Prop
  | .ok () => outcome.code = 0 ∧ outcome.diagnostics = ""
  | .error cause => ∃ context, outcome =
      { code := 1, output := "", diagnostics := Failure.message ⟨some context, cause⟩ }

theorem during_ok {α : Type} (context : String) (value : α) :
    during context (.ok value) = .ok value := rfl

theorem withoutContext_ok {α : Type} (value : α) :
    withoutContext (.ok value) = .ok value := rfl

theorem run_tells {α : Type} {command : Command} {context : String} {result : Result α}
    (printed : ∃ print, lines command = (during context result).map print) :
    (run command).Tells (Result.check result) := by
  obtain ⟨print, made⟩ := printed
  unfold run
  rw [made]
  cases result with
  | ok value => exact ⟨rfl, rfl⟩
  | error cause => exact ⟨context, rfl⟩

theorem readFilter_of_ofText {filter : String} {p : Predicate}
    (read : Predicate.ofText filter = .ok p) : readFilter filter = .ok p := by
  rw [readFilter, read]
  rfl

/-! ## Records -/

theorem exists_answer {p : Predicate} (logical : p.MadeOf Leaf.IsLogical)
    (valid : p.validate Demo.schema.resolver = .ok ()) :
    ∃ answer, Demo.people.queryChecked p Demo.schema.resolver = .ok answer := by
  have fitting : Demo.schema.Fits Demo.people := by decide +kernel
  obtain ⟨_, typed⟩ := Predicate.validate_eq_ok.mp valid
  exact Schema.exists_queryChecked (fun leaf member => Schema.exists_leafKeys fitting
    (Predicate.checkShape_of_mem_leaves logical.shaped member) (typed leaf member)
    (logical.leaves leaf member)) valid

theorem check_queryChecked {p : Predicate} (logical : p.MadeOf Leaf.IsLogical) :
    Result.check (Demo.people.queryChecked p Demo.schema.resolver) =
      p.validate Demo.schema.resolver := by
  cases checked : p.validate Demo.schema.resolver with
  | ok value =>
      obtain ⟨answer, asked⟩ := exists_answer logical checked
      rw [asked]
      rfl
  | error error =>
      rw [Schema.queryChecked_rejected checked]
      rfl

theorem exists_answerLines (p : Predicate) : ∃ print, answerLines p =
    (during "Failed to evaluate filter"
      (Demo.people.queryChecked p Demo.schema.resolver)).map print :=
  ⟨_, rfl⟩

/-! ## Statements -/

theorem checkBackend_demo (dialect : Dialect) :
    Demo.schema.checkBackend (.standard dialect) = .ok () := by
  cases dialect <;> decide +kernel

theorem compiledLines_eq (p : Predicate) (dialect : Dialect) (conditionOnly : Bool) :
    compiledLines p dialect conditionOnly =
      (during "Failed to translate filter"
        (if conditionOnly then (Compiler.standard Demo.schema dialect).condition p
          else (Compiler.standard Demo.schema dialect).selectKeys p)).map statementLines := by
  have registered : (Catalog.empty (.standard dialect)).register Demo.schema =
      .ok ((Catalog.empty (.standard dialect)).put Demo.schema) :=
    Catalog.register_of_checked (checkBackend_demo dialect)
  have found : ((Catalog.empty (.standard dialect)).put Demo.schema).get Demo.schema.name =
      .ok Demo.schema :=
    Catalog.get_eq_ok_iff.mpr ((Catalog.get?_put ..).trans (if_pos rfl))
  simp only [compiledLines, registered, during_ok, bind, Except.bind, found, withoutContext_ok]
  cases conditionOnly <;> rfl

theorem check_statement (p : Predicate) (dialect : Dialect) (conditionOnly : Bool) :
    Result.check (if conditionOnly then (Compiler.standard Demo.schema dialect).condition p
      else (Compiler.standard Demo.schema dialect).selectKeys p) =
        p.validate Demo.schema.resolver := by
  have checked := checkBackend_demo dialect
  cases conditionOnly with
  | true => exact Compiler.check_condition Schema.isBuiltIn_demo checked p
  | false => exact Compiler.check_selectKeys Schema.isBuiltIn_demo checked p

/-! ## Commands -/

theorem Uses.lines_eq {filter : String} {command : Command} (uses : Uses filter command) :
    ∃ next : Predicate → Except Failure (List String),
      lines command = readFilter filter >>= next := by
  cases uses with
  | eval | statement => exact ⟨_, rfl⟩

theorem run_unreadable {filter : String} {cause : FilterError} {command : Command}
    (unread : Predicate.ofText filter = .error cause)
    (reads : ∃ next : Predicate → Except Failure (List String),
      lines command = readFilter filter >>= next) :
    (run command).Tells (.error cause) := by
  obtain ⟨next, shape⟩ := reads
  have failed : readFilter filter =
      .error ⟨some ("Failed to parse filter '" ++ filter ++ "'"), cause⟩ := by
    rw [readFilter, unread]
    rfl
  rw [run, shape, failed]
  exact ⟨_, rfl⟩

theorem run_readable {filter : String} {p : Predicate} (read : Predicate.ofText filter = .ok p)
    {command : Command} (uses : Uses filter command) :
    (run command).Tells (p.validate Demo.schema.resolver) := by
  cases uses with
  | eval =>
      obtain ⟨print, made⟩ := exists_answerLines p
      rw [← check_queryChecked (Predicate.madeOf_ofText read)]
      apply run_tells
      rw [lines, readFilter_of_ofText read]
      exact ⟨print, made⟩
  | statement dialect conditionOnly =>
      rw [← check_statement p dialect conditionOnly]
      apply run_tells
      rw [lines, readFilter_of_ofText read]
      exact ⟨statementLines, compiledLines_eq p dialect conditionOnly⟩

theorem run_verdict {filter : String} {command : Command} (uses : Uses filter command) :
    (run command).Tells (verdict filter) := by
  cases read : Predicate.ofText filter with
  | error cause =>
      rw [verdict_eq_error_iff.mpr (.inl read)]
      exact run_unreadable read uses.lines_eq
  | ok p =>
      have checked : verdict filter = p.validate Demo.schema.resolver := by
        rw [verdict, read]
        rfl
      rw [checked]
      exact run_readable read uses

theorem code_plan (filter : String) :
    ((run (.plan filter)).code = 0 ↔ ∃ p, Predicate.ofText filter = .ok p) ∧
      ((run (.plan filter)).code = 1 ↔ ∃ cause, Predicate.ofText filter = .error cause) := by
  cases read : Predicate.ofText filter with
  | error cause =>
      have tells : (run (.plan filter)).Tells (.error cause) := run_unreadable read ⟨_, rfl⟩
      obtain ⟨context, told⟩ := tells
      rw [told]
      exact ⟨⟨nofun, nofun⟩, fun _ => ⟨cause, rfl⟩, fun _ => rfl⟩
  | ok p =>
      have ended : (run (.plan filter)).code = 0 := by
        rw [run, lines, readFilter_of_ofText read]
        rfl
      rw [ended]
      exact ⟨⟨fun _ => ⟨p, rfl⟩, fun _ => rfl⟩, nofun, nofun⟩

theorem exists_stages {compiler : Compiler} {p : Predicate} {statement : Sql.Statement}
    (success : compiler.condition p = .ok statement) :
    ∃ physical, compiler.lower p.normalized = .ok physical ∧
      compiler.render physical.normalized = .ok statement := by
  obtain ⟨_, _, later⟩ := Result.bind_eq_ok.mp success
  exact Result.bind_eq_ok.mp later

/-- Either a filter is read and passes the checks, and then it is answered, lowered and
rendered, and every command that uses it ends well; or they all end with the same cause,
which is that of the parser or of the checks. It can be planned exactly if it is read. -/
theorem commands_agree (filter : String) :
    ((∃ p, Predicate.ofText filter = .ok p ∧ p.validate Demo.schema.resolver = .ok () ∧
        (∃ answer, Demo.people.query p = .ok answer) ∧
        (∀ dialect, ∃ physical statement,
          (Compiler.standard Demo.schema dialect).lower p.normalized = .ok physical ∧
          (Compiler.standard Demo.schema dialect).render physical.normalized = .ok statement) ∧
        ∀ command, Uses filter command →
          (run command).code = 0 ∧ (run command).diagnostics = "") ∨
      ∃ cause, (Predicate.ofText filter = .error cause ∨ ∃ p, Predicate.ofText filter = .ok p ∧
          p.validate Demo.schema.resolver = .error cause) ∧
        ∀ command, Uses filter command → ∃ context, run command =
          { code := 1, output := "", diagnostics := Failure.message ⟨some context, cause⟩ }) ∧
    ((run (.plan filter)).code = 0 ↔ ∃ p, Predicate.ofText filter = .ok p) ∧
    ((run (.plan filter)).code = 1 ↔ ∃ cause, Predicate.ofText filter = .error cause) := by
  refine ⟨?_, code_plan filter⟩
  cases told : verdict filter with
  | error cause =>
      refine .inr ⟨cause, verdict_eq_error_iff.mp told, fun command uses => ?_⟩
      have tells := run_verdict uses
      rw [told] at tells
      exact tells
  | ok value =>
      obtain ⟨p, read, checked⟩ := verdict_eq_ok_iff.mp told
      obtain ⟨answer, asked⟩ := exists_answer (Predicate.madeOf_ofText read) checked
      obtain ⟨_, _, answered⟩ := Result.bind_eq_ok.mp asked
      refine .inl ⟨p, read, checked, ⟨answer, answered⟩, fun dialect => ?_,
        fun command uses => ?_⟩
      · obtain ⟨statement, compiled⟩ := Compiler.exists_condition Schema.isBuiltIn_demo
          (checkBackend_demo dialect) checked
        obtain ⟨physical, lowered, rendered⟩ := exists_stages compiled
        exact ⟨physical, statement, lowered, rendered⟩
      · have tells := run_verdict uses
        rw [told] at tells
        exact tells

/-- A filter that is used everywhere, and one whose literal no split word can equal: it is
planned, and refused alike by the records and by either dialect. -/
theorem commands_agree_people :
    let accepted := "not (balance < 120 or name like 'L%') and meta.created > 5"
    let refused := "balance = -1"
    let cause : FilterError := .typeMismatch "balance" (.int64 (-1)) .uint64
    (run (.eval accepted)).code = 0 ∧ (run (.statement accepted .sqlServer false)).code = 0 ∧
      (run (.plan refused)).code = 0 ∧
      (∃ context, run (.eval refused) =
        { code := 1, output := "", diagnostics := Failure.message ⟨some context, cause⟩ }) ∧
      ∃ context, run (.statement refused .sqlite true) =
        { code := 1, output := "", diagnostics := Failure.message ⟨some context, cause⟩ } := by
  intro accepted refused cause
  have fits : verdict accepted = .ok () := by decide +kernel
  have fails : verdict refused = .error cause := by decide +kernel
  have used : ∀ command, Uses accepted command → (run command).code = 0 := by
    cases (commands_agree accepted).1 with
    | inl fine =>
        obtain ⟨_, _, _, _, _, well⟩ := fine
        exact fun command uses => (well command uses).1
    | inr failing =>
        obtain ⟨_, blamed, _⟩ := failing
        have failed := verdict_eq_error_iff.mpr blamed
        rw [fits] at failed
        cases failed
  have told : ∀ command, Uses refused command → ∃ context, run command =
      { code := 1, output := "", diagnostics := Failure.message ⟨some context, cause⟩ } := by
    cases (commands_agree refused).1 with
    | inl fine =>
        obtain ⟨p, read, checked, _⟩ := fine
        have passed := verdict_eq_ok_iff.mpr ⟨p, read, checked⟩
        rw [fails] at passed
        cases passed
    | inr failing =>
        obtain ⟨other, blamed, told⟩ := failing
        have failed := verdict_eq_error_iff.mpr blamed
        rw [fails] at failed
        cases failed
        exact told
  have planned : ∃ p, Predicate.ofText refused = .ok p :=
    Result.check_eq_ok.mp (by decide +kernel)
  exact ⟨used _ .eval, used _ (.statement ..), (commands_agree refused).2.1.mpr planned,
    told _ .eval, told _ (.statement ..)⟩

end RecordFilter.CommandLine
