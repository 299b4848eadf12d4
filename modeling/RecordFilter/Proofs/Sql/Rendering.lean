import RecordFilter.Predicate.Builder
import RecordFilter.Proofs.Predicate.PlanRun
import RecordFilter.Proofs.Result
import RecordFilter.Proofs.Sql.Grammar
import RecordFilter.Schema.Basic
import RecordFilter.Sql.Statement
import Std.Data.String.ToNat

/-!
# Reading conditions back

The text of a condition is a sentence, and the only condition it stands for is the
predicate about columns that it was made from. Values are bound from left to right, so
the placeholders of a part are numbered on from those of the parts before it; this is the
invariant that the rendering of a tree carries.
-/

set_option autoImplicit false

namespace RecordFilter

open Sql (Binding Bindings Condition Dialect Fragments IsPlaceholder Sentence negationMark
  placeholder)

/-! ## Predicates about columns as conditions -/

/-- The condition that a leaf about a column or a constant stands for. Membership in
nothing is a constant. -/
def Leaf.asCondition? (table : String) (negated : Bool) (leaf : Leaf) : Option (Condition Value) :=
  match leaf.target, leaf.property with
  | .constant, _ => leaf.truth.toOption.map (.constant negated)
  | .column, some column =>
    if leaf.comparison = .oneOf then
      if leaf.values.isEmpty then some (.constant negated false)
      else some (.among negated table column leaf.values)
    else some (.compare negated table column leaf.comparison leaf.value)
  | _, _ => none

def Predicate.asCondition? (table : String) : Predicate → Option (Condition Value) :=
  fold (fun negated leaf => leaf.asCondition? table negated) fun negated connective members =>
    match members with
    | [some left, some right] => some (.pair negated connective left right)
    | _ => none

namespace Sql

/-! ## Numbered placeholders -/

/-- Values and their placeholders, numbered from a number on. -/
def numbered (marker : Char) (start : Nat) : List Value → List Binding
  | [] => []
  | v :: values => ⟨placeholder marker start, v⟩ :: numbered marker (start + 1) values

theorem numbered_append (marker : Char) (start : Nat) (first second : List Value) :
    numbered marker start (first ++ second) =
      numbered marker start first ++ numbered marker (start + first.length) second := by
  induction first generalizing start with
  | nil => rfl
  | cons v first ih =>
      rw [List.cons_append, numbered, ih, numbered, List.cons_append, List.length_cons,
        Nat.add_right_comm, Nat.add_assoc start]

theorem map_value_numbered (marker : Char) (start : Nat) (values : List Value) :
    (numbered marker start values).map (·.value) = values := by
  induction values generalizing start with
  | nil => rfl
  | cons v values ih => rw [numbered, List.map_cons, ih]

theorem map_name_numbered (marker : Char) (start : Nat) (values : List Value) :
    (numbered marker start values).map (·.name) =
      (List.range' start values.length).map (placeholder marker) := by
  induction values generalizing start with
  | nil => rfl
  | cons v values ih => rw [numbered, List.map_cons, ih]; rfl

theorem toList_foldl_bind (bindings : Bindings) (values : List Value) :
    (values.foldl Bindings.bind bindings).marker = bindings.marker ∧
      (values.foldl Bindings.bind bindings).bound.toList =
        bindings.bound.toList ++ numbered bindings.marker bindings.size values := by
  induction values generalizing bindings with
  | nil => simp [numbered]
  | cons v values ih =>
      obtain ⟨marker, bound⟩ := ih (bindings.bind v)
      refine ⟨marker, ?_⟩
      rw [List.foldl_cons, bound]
      simp [Bindings.bind, Bindings.size, Bindings.next, numbered]

theorem size_foldl_bind (bindings : Bindings) (values : List Value) :
    (values.foldl Bindings.bind bindings).size = bindings.size + values.length := by
  induction values generalizing bindings with
  | nil => rfl
  | cons v values ih =>
      rw [List.foldl_cons, ih, List.length_cons]
      simp [Bindings.bind, Bindings.size, Nat.add_assoc, Nat.add_comm 1]

theorem isPlaceholder_placeholder (number : Nat) : IsPlaceholder (placeholder '@' number) := by
  have digits : toString number = String.ofList (Nat.toDigits 10 number) :=
    Nat.toString_eq_ofList_toDigits
  rw [placeholder, digits]
  exact .numbered Nat.toDigits_ne_nil fun _ member =>
    Nat.isDigit_of_mem_toDigits (by decide) (by decide) member

theorem placeholder_injective {marker : Char} {first second : Nat}
    (same : placeholder marker first = placeholder marker second) : first = second := by
  rw [placeholder, placeholder, String.append_right_inj] at same
  exact Nat.repr_injective same

/-! ## Runs of a rendering -/

section Runs

open Compiler (Rendering)

variable {α β : Type}

theorem run_bind_eq_ok {first : Rendering α} {next : α → Rendering β} {before after : Bindings}
    {result : β} :
    (first >>= next).run before = .ok (result, after) ↔ ∃ value middle,
      first.run before = .ok (value, middle) ∧ (next value).run middle = .ok (result, after) := by
  rw [StateT.run_bind, Result.bind_eq_ok, Prod.exists]

theorem run_mapM_bindValue (values : List Value) (before : Bindings) :
    (values.mapM Compiler.bindValue).run before =
      .ok ((numbered before.marker before.size values).map (·.name),
        values.foldl Bindings.bind before) := by
  induction values generalizing before with
  | nil => rfl
  | cons v values ih =>
      rw [List.mapM_cons, run_bind_eq_ok]
      refine ⟨before.next, before.bind v, rfl, ?_⟩
      rw [run_bind_eq_ok]
      refine ⟨_, _, ih (before.bind v), ?_⟩
      have size : (before.bind v).size = before.size + 1 := by
        simp [Bindings.bind, Bindings.size]
      rw [size]
      rfl

end Runs

/-! ## Readings -/

/-- A text that was rendered between two states of the bindings, read as a condition: the
text is a sentence of the condition, and the values of the condition have been bound in
their order to the placeholders that stand for them. -/
structure Reading (dialect : Dialect) (read : Option (Condition Value)) (before : Bindings)
    (text : String) (after : Bindings) (bound : Condition Binding) : Prop where
  values : read = some (bound.map (·.value))
  sentence : Sentence dialect (bound.map (·.name)) text
  names : bound.operands =
    numbered before.marker before.size (bound.operands.map (·.value))
  after : after = (bound.operands.map (·.value)).foldl Bindings.bind before

variable {dialect : Dialect} {before middle after : Bindings}

theorem reading_constant (negated truth : Bool) (bindings : Bindings) :
    Reading dialect (some (.constant negated truth)) bindings
      (negationMark negated ++ Compiler.constantCondition truth) bindings
      (.constant negated truth) where
  values := rfl
  sentence := by
    cases truth with
    | true => exact .always
    | false => exact .never
  names := rfl
  after := rfl

theorem Reading.pair {negated : Bool} {connective : Connective}
    {left right : Option (Condition Value)} {leftText rightText : String}
    {leftBound rightBound : Condition Binding}
    (first : Reading dialect left before leftText middle leftBound)
    (second : Reading dialect right middle rightText after rightBound)
    {read : Option (Condition Value)}
    (joined : ∀ l r, left = some l → right = some r → read = some (.pair negated connective l r)) :
    Reading dialect read before
      (negationMark negated ++
        ("(" ++ leftText ++ " " ++ connective.keyword ++ " " ++ rightText ++ ")"))
      after (.pair negated connective leftBound rightBound) where
  values := joined _ _ first.values second.values
  sentence := by
    have sentence : Sentence dialect (.pair negated connective _ _) _ :=
      .pair first.sentence second.sentence
    simpa only [String.append_assoc, Condition.map] using sentence
  names := by
    have marker : middle.marker = before.marker := by
      rw [first.after]
      exact (toList_foldl_bind before _).1
    have size : middle.size = before.size + (leftBound.operands.map (·.value)).length := by
      rw [first.after]
      exact size_foldl_bind before _
    rw [Condition.operands, List.map_append, numbered_append, ← first.names, ← size, ← marker,
      ← second.names]
  after := by
    rw [Condition.operands, List.map_append, List.foldl_append, ← first.after, ← second.after]

theorem reading_compare (negated : Bool) (table column : String) {comparison : Comparison}
    (comparing : comparison ≠ .oneOf) (v : Value) {before : Bindings}
    (marker : before.marker = '@') :
    Reading dialect (some (.compare negated table column comparison v)) before
      (negationMark negated ++
        ("(" ++ dialect.qualify table column ++ " " ++ comparison.symbol ++ " " ++ before.next ++
          ")"))
      (before.bind v) (.compare negated table column comparison ⟨before.next, v⟩) where
  values := rfl
  sentence := by
    have named : IsPlaceholder before.next := by
      rw [Bindings.next, marker]
      exact isPlaceholder_placeholder _
    have sentence : Sentence dialect (.compare negated table column comparison before.next) _ :=
      .compare comparing named
    simpa only [String.append_assoc, Condition.map] using sentence
  names := rfl
  after := rfl

theorem reading_among (negated : Bool) (table column : String) {values : List Value}
    (some : values ≠ []) {before : Bindings} (marker : before.marker = '@') :
    Reading dialect (.some (.among negated table column values)) before
      (negationMark negated ++
        ("(" ++ dialect.qualify table column ++ " in (" ++
          String.intercalate ", " ((numbered before.marker before.size values).map (·.name)) ++
          "))"))
      (values.foldl Bindings.bind before)
      (.among negated table column (numbered before.marker before.size values)) where
  values := by rw [Condition.map, map_value_numbered]
  sentence := by
    have named : ∀ name ∈ (numbered before.marker before.size values).map (·.name),
        IsPlaceholder name := by
      rw [map_name_numbered, marker, List.forall_mem_map]
      exact fun number _ => isPlaceholder_placeholder number
    have present : (numbered before.marker before.size values).map (·.name) ≠ [] := by
      rw [map_name_numbered]
      simpa using some
    have sentence : Sentence dialect (.among negated table column _) _ := .among present named
    simpa only [String.append_assoc, Condition.map] using sentence
  names := by rw [Condition.operands, map_value_numbered]
  after := by rw [Condition.operands, map_value_numbered]

/-! ## Rendering a tree -/

namespace Compiler

variable {compiler : Compiler}

theorem exists_reading_leaf {leaf : Leaf} {text : String} (marker : before.marker = '@')
    (success : (compiler.leafCondition leaf).run before = .ok (text, after)) (negated : Bool) :
    ∃ bound, Reading compiler.backend.dialect
      (leaf.asCondition? compiler.resolver.table negated) before
      (negationMark negated ++ text) after bound := by
  unfold leafCondition at success
  split at success
  next constant =>
    obtain ⟨truth, middle, carried, rendered⟩ := run_bind_eq_ok.mp success
    cases decided : leaf.truth with
    | error error =>
        rw [decided] at carried
        cases carried
    | ok value =>
        rw [decided] at carried
        cases carried
        cases rendered
        have read : leaf.asCondition? compiler.resolver.table negated =
            some (.constant negated truth) := by
          simp only [Leaf.asCondition?, constant, decided]
          rfl
        rw [read]
        exact ⟨_, reading_constant negated truth before⟩
  next column target named =>
    unfold columnCondition at success
    split at success
    next membership =>
      split at success
      next none =>
        cases success
        have read : leaf.asCondition? compiler.resolver.table negated =
            some (.constant negated false) := by
          simp only [Leaf.asCondition?, target, named, membership, none, ↓reduceIte]
        rw [read]
        exact ⟨_, reading_constant negated false before⟩
      next nonempty =>
        obtain ⟨names, middle, bound, rendered⟩ := run_bind_eq_ok.mp success
        rw [run_mapM_bindValue] at bound
        cases bound
        cases rendered
        have read : leaf.asCondition? compiler.resolver.table negated =
            some (.among negated compiler.resolver.table column leaf.values) := by
          simp only [Leaf.asCondition?, target, named, membership, nonempty, ↓reduceIte,
            Bool.false_eq_true]
        rw [read]
        have present : leaf.values ≠ [] := fun none => nonempty (List.isEmpty_iff.mpr none)
        exact ⟨_, reading_among negated _ column present marker⟩
    next comparing =>
      cases success
      have read : leaf.asCondition? compiler.resolver.table negated =
          some (.compare negated compiler.resolver.table column leaf.comparison leaf.value) := by
        simp only [Leaf.asCondition?, target, named, comparing, ↓reduceIte]
      rw [read]
      exact ⟨_, reading_compare negated _ column comparing leaf.value marker⟩
  next => cases success

theorem asCondition?_leaf (table : String) (negated : Bool) (leaf : Leaf) :
    (Predicate.leaf negated leaf).asCondition? table = leaf.asCondition? table negated := by
  simp [Predicate.asCondition?]

theorem asCondition?_pair {table : String} {negated : Bool} {connective : Connective}
    {left right : Predicate} {l r : Condition Value} (first : left.asCondition? table = some l)
    (second : right.asCondition? table = some r) :
    (Predicate.group negated connective [left, right]).asCondition? table =
      some (.pair negated connective l r) := by
  unfold Predicate.asCondition? at first second ⊢
  rw [Predicate.fold_group, List.map_cons, List.map_cons, List.map_nil, first, second]

theorem text_mark (negated : Bool) (condition : Fragments) :
    (if negated then condition.pushFront "not " else condition).text =
      negationMark negated ++ condition.text := by
  cases negated with
  | true => exact Fragments.text_pushFront "not " condition
  | false => exact (String.empty_append ..).symm

theorem run_renderNode_wide {negated : Bool} {connective : Connective}
    {children : List Predicate} (wide : ∀ left right, children ≠ [left, right])
    (members : List Fragments) (bindings : Bindings) :
    (compiler.renderNode (.group negated connective children) members).run bindings =
      .error (.malformed (.groupInCondition connective children.length)) := by
  unfold renderNode
  match children, wide with
  | [], _ | [_], _ | _ :: _ :: _ :: _, _ => rfl
  | [left, right], wide => exact absurd rfl (wide left right)

/-- A rendered tree is read back as what the tree stands for. -/
theorem exists_reading {p : Predicate} {before after : Bindings} {fragments : Fragments}
    (marker : before.marker = '@')
    (success : (p.foldM compiler.renderNode).run before = .ok (fragments, after)) :
    ∃ bound, Reading compiler.backend.dialect (p.asCondition? compiler.resolver.table) before
      fragments.text after bound := by
  induction p using Predicate.induction generalizing before after fragments with
  | leafCase negated leaf =>
      rw [Predicate.foldM_leaf] at success
      obtain ⟨condition, middle, rendered, marked⟩ := run_bind_eq_ok.mp success
      rw [map_eq_pure_bind] at rendered
      obtain ⟨text, _, found, single⟩ := run_bind_eq_ok.mp rendered
      cases single
      cases marked
      rw [asCondition?_leaf, Predicate.isNegated, text_mark, Fragments.text_single]
      exact exists_reading_leaf marker found negated
  | groupCase negated connective children ih =>
      by_cases pair : ∃ left right, children = [left, right]
      · obtain ⟨left, right, rfl⟩ := pair
        rw [Predicate.foldM_pair] at success
        obtain ⟨leftText, middle, leftRun, later⟩ := run_bind_eq_ok.mp success
        obtain ⟨rightText, _, rightRun, joined⟩ := run_bind_eq_ok.mp later
        cases joined
        obtain ⟨leftBound, leftReading⟩ := ih left (by simp) marker leftRun
        -- the right member is numbered from where the left one stopped
        have middleMarker : middle.marker = '@' := by
          rw [leftReading.after, (toList_foldl_bind before _).1]
          exact marker
        obtain ⟨rightBound, rightReading⟩ := ih right (by simp) middleMarker rightRun
        rw [Predicate.isNegated, text_mark, Fragments.text_join]
        exact ⟨_, leftReading.pair rightReading fun _ _ => asCondition?_pair⟩
      · rw [Predicate.foldM_group] at success
        obtain ⟨members, middle, _, rendered⟩ := run_bind_eq_ok.mp success
        rw [run_renderNode_wide (fun left right same => pair ⟨left, right, same⟩)] at rendered
        cases rendered

/-- The text of a condition is a sentence that stands for one condition only: the tree
about columns that the predicate is lowered to, with a placeholder for every value. The
placeholders are numbered from left to right, no two are the same, and the parameters are
the values they stand for. -/
theorem condition_reads_back {compiler : Compiler} {p : Predicate} {statement : Statement}
    (success : compiler.condition p = .ok statement) :
    ∃ physical bound, compiler.lower p.normalized = .ok physical ∧
      physical.normalized.asCondition? compiler.resolver.table =
        some (Condition.map (·.value) bound) ∧
      Sentence compiler.backend.dialect (bound.map (·.name)) statement.text ∧
      (∀ other, Sentence compiler.backend.dialect other statement.text →
        other = bound.map (·.name)) ∧
      bound.operands = statement.parameters ∧
      statement.parameters.map (·.name) =
        (List.range statement.parameters.length).map (placeholder '@') ∧
      (statement.parameters.map (·.name)).Nodup := by
  obtain ⟨_, _, later⟩ := Result.bind_eq_ok.mp success
  obtain ⟨physical, lowered, rendered⟩ := Result.bind_eq_ok.mp later
  obtain ⟨⟨fragments, after⟩, run, built⟩ := Result.bind_eq_ok.mp rendered
  cases built
  rw [Plan.run_ofPredicate] at run
  obtain ⟨bound, reading⟩ := exists_reading rfl run
  have parameters : after.bound.toList = bound.operands := by
    rw [reading.after, (toList_foldl_bind _ _).2]
    exact reading.names.symm
  have names : after.bound.toList.map (·.name) =
      (List.range after.bound.toList.length).map (placeholder '@') := by
    have numbers := congrArg (List.map (·.name)) reading.names
    rw [map_name_numbered, List.length_map] at numbers
    rw [parameters, numbers, List.range_eq_range']
    rfl
  refine ⟨physical, bound, lowered, reading.values, reading.sentence,
    fun other sentence => reading.sentence.unique sentence, parameters.symm, names, ?_⟩
  rw [names]
  exact List.pairwise_map.mpr (List.nodup_range.imp fun different same =>
    different (placeholder_injective same))

/-- A closing quote in a name does not end the name. -/
theorem condition_reads_back_quoted :
    ∃ (physical : Predicate) (bound : Condition Binding),
      physical.normalized.asCondition? "odd]" = some (bound.map (·.value)) ∧
      Sentence .sqlServer (bound.map (·.name))
        "not ((not ([odd]]].[a]]b] = @p0) or ([odd]]].[a]]b] in (@p1, @p2))) or (0 = 1))" ∧
      bound.operands = [⟨"@p0", .int64 5⟩, ⟨"@p1", .int64 7⟩, ⟨"@p2", .int64 8⟩] := by
  have success : condition
      { resolver := ((Schema.empty "odd" "odd]" "id").withValue "x" "a]b" .int64).resolver
        backend := .standard .sqlServer }
      (.negate (.any [.negate (.equalTo "x" (.int32 5)), .among "x" [.int32 7, .uint64 8],
        .among "x" []])) =
      .ok
        { text := "not ((not ([odd]]].[a]]b] = @p0) or ([odd]]].[a]]b] in (@p1, @p2))) or (0 = 1))"
          parameters := [⟨"@p0", .int64 5⟩, ⟨"@p1", .int64 7⟩, ⟨"@p2", .int64 8⟩] } := by
    decide +kernel
  obtain ⟨physical, bound, _, read, sentence, _, operands, _, _⟩ := condition_reads_back success
  exact ⟨physical, bound, read, sentence, operands⟩

end Compiler

end Sql

end RecordFilter
