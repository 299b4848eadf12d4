import Mathlib.Data.List.Forall2

/-!
# Results

When chains and repetitions of computations that can fail succeed, and what becomes of an
outcome of which only success or the error counts.
-/

set_option autoImplicit false

namespace RecordFilter.Result

variable {ε α β γ : Type}

theorem bind_eq_ok {first : Except ε α} {next : α → Except ε β} {result : β} :
    first >>= next = .ok result ↔ ∃ value, first = .ok value ∧ next value = .ok result := by
  cases first with
  | error error =>
      constructor
      · intro success
        cases success
      · rintro ⟨value, success, _⟩
        cases success
  | ok value =>
      constructor
      · intro success
        exact ⟨value, rfl, success⟩
      · rintro ⟨_, same, success⟩
        cases same
        exact success

theorem bind_eq_error {first : Except ε α} {next : α → Except ε β} {error : ε} :
    first >>= next = .error error ↔
      first = .error error ∨ ∃ value, first = .ok value ∧ next value = .error error := by
  cases first with
  | error found => simp [bind, Except.bind]
  | ok value => simp [bind, Except.bind]

theorem mapError_eq_ok {δ : Type} {outcome : Except ε α} {f : ε → δ} {value : α} :
    outcome.mapError f = .ok value ↔ outcome = .ok value := by
  cases outcome <;> simp [Except.mapError]

theorem forM_eq_ok {items : List α} {check : α → Except ε Unit} :
    forM items check = .ok () ↔ ∀ item ∈ items, check item = .ok () := by
  induction items with
  | nil => simp [pure, Except.pure]
  | cons item items ih =>
      rw [List.forM_cons, bind_eq_ok, List.forall_mem_cons]
      constructor
      · rintro ⟨_, first, rest⟩
        exact ⟨first, ih.mp rest⟩
      · rintro ⟨first, rest⟩
        exact ⟨(), first, ih.mpr rest⟩

/-- A repetition fails with the error of its first failing item; the items behind that one
are not looked at. -/
theorem forM_eq_error {items : List α} {check : α → Except ε Unit} {error : ε} :
    forM items check = .error error ↔
      ∃ before item after, items = before ++ item :: after ∧
        (∀ earlier ∈ before, check earlier = .ok ()) ∧ check item = .error error := by
  constructor
  · intro failure
    induction items with
    | nil => cases failure
    | cons head items ih =>
        rw [List.forM_cons] at failure
        cases checked : check head with
        | error first =>
            rw [checked] at failure
            cases failure
            exact ⟨[], head, items, rfl, nofun, checked⟩
        | ok value =>
            rw [checked] at failure
            obtain ⟨before, item, after, rfl, passed, found⟩ := ih failure
            exact ⟨head :: before, item, after, rfl,
              List.forall_mem_cons.mpr ⟨checked, passed⟩, found⟩
  · rintro ⟨before, item, after, rfl, passed, found⟩
    rw [List.forM_append, forM_eq_ok.mpr passed]
    show forM (item :: after) check = _
    rw [List.forM_cons, found]
    rfl

theorem exists_of_forM_eq_error {items : List α} {check : α → Except ε Unit} {error : ε}
    (failure : forM items check = .error error) : ∃ item ∈ items, check item = .error error := by
  obtain ⟨before, item, after, rfl, _, found⟩ := forM_eq_error.mp failure
  exact ⟨item, List.mem_append_right before List.mem_cons_self, found⟩

theorem exists_forM_eq_error_iff {items : List α} {check : α → Except ε Unit} :
    (∃ error, forM items check = .error error) ↔
      ∃ item ∈ items, ∃ error, check item = .error error := by
  constructor
  · rintro ⟨error, failure⟩
    obtain ⟨item, member, found⟩ := exists_of_forM_eq_error failure
    exact ⟨item, member, error, found⟩
  · rintro ⟨item, member, error, found⟩
    cases run : forM items check with
    | error first => exact ⟨first, rfl⟩
    | ok value =>
        rw [forM_eq_ok.mp run item member] at found
        cases found

theorem forM_congr {items : List α} {first second : α → Except ε Unit}
    (same : ∀ item ∈ items, first item = second item) : forM items first = forM items second := by
  induction items with
  | nil => rfl
  | cons item items ih =>
      obtain ⟨head, rest⟩ := List.forall_mem_cons.mp same
      rw [List.forM_cons, List.forM_cons, head, ih rest]

theorem mapM_eq_ok {items : List α} {step : α → Except ε β} {results : List β} :
    items.mapM step = .ok results ↔
      List.Forall₂ (fun item result => step item = .ok result) items results := by
  induction items generalizing results with
  | nil =>
      rw [List.mapM_nil]
      constructor
      · intro success
        cases success
        exact .nil
      · intro matched
        cases matched
        rfl
  | cons item items ih =>
      rw [List.mapM_cons, bind_eq_ok]
      constructor
      · rintro ⟨result, first, later⟩
        obtain ⟨others, rest, built⟩ := bind_eq_ok.mp later
        cases built
        exact .cons first (ih.mp rest)
      · intro matched
        cases matched with
        | cons first rest =>
            exact ⟨_, first, bind_eq_ok.mpr ⟨_, ih.mpr rest, rfl⟩⟩

theorem exists_forall₂ {items : List α} {related : α → β → Prop}
    (each : ∀ item ∈ items, ∃ result, related item result) :
    ∃ results, List.Forall₂ related items results := by
  induction items with
  | nil => exact ⟨[], .nil⟩
  | cons item items ih =>
      obtain ⟨result, first⟩ := each item List.mem_cons_self
      obtain ⟨results, later⟩ := ih fun other member => each other (List.mem_cons_of_mem _ member)
      exact ⟨result :: results, .cons first later⟩

theorem exists_right_of_mem {related : α → β → Prop} {items : List α} {results : List β}
    (matched : List.Forall₂ related items results) {item : α} (member : item ∈ items) :
    ∃ result ∈ results, related item result := by
  induction matched with
  | nil => cases member
  | cons head _ ih =>
      cases member with
      | head => exact ⟨_, List.mem_cons_self, head⟩
      | tail _ later =>
          obtain ⟨result, resultMember, found⟩ := ih later
          exact ⟨result, List.mem_cons_of_mem _ resultMember, found⟩

theorem exists_left_of_mem {related : α → β → Prop} {items : List α} {results : List β}
    (matched : List.Forall₂ related items results) {result : β} (member : result ∈ results) :
    ∃ item ∈ items, related item result :=
  exists_right_of_mem matched.flip member

theorem exists_mapM {items : List α} {step : α → Except ε β}
    (each : ∀ item ∈ items, ∃ result, step item = .ok result) :
    ∃ results, items.mapM step = .ok results := by
  obtain ⟨results, matched⟩ := exists_forall₂ each
  exact ⟨results, mapM_eq_ok.mpr matched⟩

/-- Two runs over items whose results are related one by one. -/
theorem forall₂_of_mapM {related : β → β → Prop} {step : α → Except ε β} {items others : List α}
    {results otherResults : List β}
    (each : List.Forall₂ (fun item other => ∀ result otherResult, step item = .ok result →
      step other = .ok otherResult → related result otherResult) items others)
    (success : items.mapM step = .ok results) (otherSuccess : others.mapM step = .ok otherResults) :
    List.Forall₂ related results otherResults := by
  rw [mapM_eq_ok] at success otherSuccess
  induction each generalizing results otherResults with
  | nil =>
      cases success
      cases otherSuccess
      exact .nil
  | cons head _ ih =>
      cases success with
      | cons found success =>
          cases otherSuccess with
          | cons otherFound otherSuccess =>
              exact .cons (head _ _ found otherFound) (ih success otherSuccess)

/-! ## Success or error alone -/

/-- An outcome without its result. -/
def check (outcome : Except ε α) : Except ε Unit :=
  outcome.map fun _ => ()

@[simp] theorem check_ok (value : α) : check (.ok value : Except ε α) = .ok () := rfl

@[simp] theorem check_error (error : ε) : check (.error error : Except ε α) = .error error := rfl

theorem check_eq_ok {outcome : Except ε α} :
    check outcome = .ok () ↔ ∃ value, outcome = .ok value := by
  cases outcome <;> simp

theorem check_eq_error {outcome : Except ε α} {error : ε} :
    check outcome = .error error ↔ outcome = .error error := by
  cases outcome <;> simp

theorem check_bind (first : Except ε α) (next : α → Except ε β) :
    check (first >>= next) = first >>= fun value => check (next value) := by
  cases first <;> rfl

@[simp] theorem check_bind_pure (first : Except ε α) (f : α → β) :
    check (first >>= fun value => pure (f value)) = check first := by
  cases first <;> rfl

/-- What follows a computation and uses no result of it sees its success or error only. -/
theorem check_bind_const (first : Except ε α) (next : Except ε β) :
    (check first >>= fun _ => next) = first >>= fun _ => next := by
  cases first <;> rfl

theorem check_mapM (items : List α) (step : α → Except ε β) :
    check (items.mapM step) = forM items fun item => check (step item) := by
  induction items with
  | nil => rfl
  | cons item items ih =>
      rw [List.mapM_cons, List.forM_cons, ← ih, check_bind_const, check_bind]
      apply bind_congr
      intro result
      exact check_bind_pure _ _

theorem mapM_eq_error {items : List α} {step : α → Except ε β} {error : ε} :
    items.mapM step = .error error ↔
      ∃ before item after, items = before ++ item :: after ∧
        (∀ earlier ∈ before, ∃ result, step earlier = .ok result) ∧ step item = .error error := by
  rw [← check_eq_error, check_mapM, forM_eq_error]
  simp only [check_eq_ok, check_eq_error]

/-! ## All errors of a repetition -/

/-- The errors of the items that fail, in the order of the items. -/
def errors (items : List α) (check : α → Except ε Unit) : List ε :=
  items.filterMap fun item =>
    match check item with
    | .error error => some error
    | .ok _ => none

/-- The outcome that tells the first of some errors. -/
def report : List ε → Except ε Unit
  | [] => .ok ()
  | error :: _ => .error error

theorem forM_eq_report (items : List α) (check : α → Except ε Unit) :
    forM items check = report (errors items check) := by
  induction items with
  | nil => rfl
  | cons item items ih =>
      rw [List.forM_cons, ih]
      cases checked : check item with
      | error error => simp [errors, checked, report, bind, Except.bind]
      | ok value => simp [errors, checked, bind, Except.bind]

theorem report_append (first second : List ε) :
    report (first ++ second) = report first >>= fun _ => report second := by
  cases first <;> rfl

theorem errors_cons (item : α) (items : List α) (check : α → Except ε Unit) :
    errors (item :: items) check = errors [item] check ++ errors items check :=
  List.filterMap_append (l := [item])

theorem errors_flatMap (items : List β) (parts : β → List α) (check : α → Except ε Unit) :
    errors (items.flatMap parts) check = items.flatMap fun item => errors (parts item) check := by
  rw [errors, List.filterMap_flatMap]
  rfl

end RecordFilter.Result
