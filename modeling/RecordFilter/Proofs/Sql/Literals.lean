import RecordFilter.Proofs.Predicate.SameShape
import RecordFilter.Proofs.Sql.Lowering
import RecordFilter.Proofs.Sql.Rendering

/-!
# Literals stay out of the text

What a predicate compares with does not reach the text of its condition. Two predicates of
the same shape are lowered to trees of the same shape: a split word becomes the same
comparisons wherever its bits lie, membership apart. Trees of the same shape are read as
conditions that differ in their operands only, and since these are numbered from left to
right, the placeholders that stand for them are the same.
-/

set_option autoImplicit false

namespace RecordFilter

open Sql (Bindings Binding Codec Condition Compiler Dialect Property Reading Resolver Sentence
  SplitColumns SplitWord Statement lowerSplit lowerSplitLeaf numbered splitName)

namespace Sql

/-! ## What a leaf resolves to -/

structure Resolver.IsBuiltIn (resolver : Resolver) : Prop where
  key : resolver.key.codec.IsBuiltIn
  property : ∀ target name property, resolver.property? target name = some property →
    property.codec.IsBuiltIn

def Resolver.AddressesSplit (resolver : Resolver) (leaf : Leaf) : Prop :=
  ∃ property, resolver.resolve leaf = .ok property ∧ property.codec = .split

theorem Resolver.IsBuiltIn.of_resolve {resolver : Resolver} (builtIn : resolver.IsBuiltIn)
    {leaf : Leaf} {property : Property} (resolved : resolver.resolve leaf = .ok property) :
    property.codec.IsBuiltIn := by
  unfold resolve at resolved
  split at resolved
  · cases resolved
    exact builtIn.key
  · split at resolved
    next found =>
      cases resolved
      exact builtIn.property _ _ _ found
    next => cases resolved
  · split at resolved
    next found =>
      cases resolved
      exact builtIn.property _ _ _ found
    next => cases resolved
  · cases resolved

theorem Resolver.resolve_congr (resolver : Resolver) {first second : Leaf}
    (form : first.SameForm second) : resolver.resolve second = resolver.resolve first := by
  simp only [resolve, form.target, form.property]

theorem Codec.IsBuiltIn.eq_split {codec : Codec} (builtIn : codec.IsBuiltIn)
    (several : 1 < codec.columns) : codec = .split := by
  cases builtIn with
  | native type => exact absurd several (Nat.lt_irrefl 1)
  | split => rfl

end Sql

theorem Schema.IsBuiltIn.resolver {schema : Schema} (builtIn : schema.IsBuiltIn) :
    schema.resolver.IsBuiltIn where
  key := builtIn _ (mem_properties_iff.mpr (.inl rfl))
  property := by
    intro target name property found
    cases target with
    | value => exact builtIn _ (mem_properties_iff.mpr (.inr (.inl (mem_values.mpr ⟨name, found⟩))))
    | metadata =>
        exact builtIn _ (mem_properties_iff.mpr (.inr (.inr (mem_values.mpr ⟨name, found⟩))))
    | constant | key | column => cases found

namespace Sql

/-! ## Lowering leaves of the same form -/

theorem sameShape_column (name : String) (comparison : Comparison) (v w : Value) :
    (Predicate.column name comparison v).SameShape (.column name comparison w) :=
  .leaf (Leaf.sameForm_compare (by decide) comparison (some name) v w)

theorem sameShape_columnAmong (name : String) {values others : List Value}
    (equallyMany : values.length = others.length) :
    (Predicate.columnAmong name values).SameShape (.columnAmong name others) :=
  .leaf (Leaf.sameForm_among (by decide) (some name) equallyMany)

namespace SplitColumns

theorem sameShape_equalTo (columns : SplitColumns) (parts others : SplitWord) :
    (columns.equalTo parts).SameShape (columns.equalTo others) :=
  .pair (sameShape_column ..) (sameShape_column ..)

theorem sameShape_above (columns : SplitColumns) (parts others : SplitWord)
    (lowComparison : Comparison) :
    (columns.above parts lowComparison).SameShape (columns.above others lowComparison) :=
  .pair (sameShape_column ..) (.pair (sameShape_column ..) (sameShape_column ..))

/-- No bit of a word decides about the tree that compares with it. -/
theorem sameShape_ordered (columns : SplitColumns) (comparison : Comparison)
    (word other : UInt64) :
    (columns.ordered comparison word).SameShape (columns.ordered comparison other) := by
  cases comparison with
  | equal => exact sameShape_equalTo ..
  | notEqual => exact (sameShape_equalTo ..).withNegation true
  | greater | greaterOrEqual => exact sameShape_above ..
  | _ => exact (sameShape_above ..).withNegation true

end SplitColumns

section Leaves

variable {first second : Leaf} (form : first.SameForm second) {property : Property}
  {lowered other : Predicate}

include form

theorem sameShape_columnLeaf {column : String}
    (success : Compiler.columnLeaf first property column = .ok lowered)
    (otherSuccess : Compiler.columnLeaf second property column = .ok other) :
    lowered.SameShape other := by
  rcases first.comparison.cases_isOrdering with membership | pattern | ordering
  · have equallyMany := form.candidates membership
    rw [Leaf.columnLeaf_oneOf membership] at success
    rw [Leaf.columnLeaf_oneOf (form.comparison.symm.trans membership)] at otherSuccess
    obtain ⟨values, encoded, built⟩ := Result.bind_eq_ok.mp success
    obtain ⟨others, otherEncoded, otherBuilt⟩ := Result.bind_eq_ok.mp otherSuccess
    cases built
    cases otherBuilt
    rw [(Result.mapM_eq_ok.mp encoded).length_eq,
      (Result.mapM_eq_ok.mp otherEncoded).length_eq] at equallyMany
    exact sameShape_columnAmong column equallyMany
  · rw [Leaf.columnLeaf_like pattern] at success
    rw [Leaf.columnLeaf_like (form.comparison.symm.trans pattern)] at otherSuccess
    cases success
    cases otherSuccess
    exact sameShape_column ..
  · rw [Leaf.columnLeaf_ordering ordering] at success
    rw [Leaf.columnLeaf_ordering (form.comparison ▸ ordering)] at otherSuccess
    obtain ⟨v, _, built⟩ := Result.bind_eq_ok.mp success
    obtain ⟨w, _, otherBuilt⟩ := Result.bind_eq_ok.mp otherSuccess
    cases built
    cases otherBuilt
    rw [← form.comparison]
    exact sameShape_column ..

theorem sameShape_lowerSplitLeaf (single : first.comparison ≠ .oneOf)
    (success : lowerSplitLeaf first property = .ok lowered)
    (otherSuccess : lowerSplitLeaf second property = .ok other) : lowered.SameShape other := by
  unfold lowerSplitLeaf at success otherSuccess
  rw [← form.comparison] at otherSuccess
  obtain ⟨columns, found, later⟩ := Result.bind_eq_ok.mp success
  obtain ⟨_, otherFound, otherLater⟩ := Result.bind_eq_ok.mp otherSuccess
  cases found.symm.trans otherFound
  cases comparison : first.comparison with
  | oneOf => exact absurd comparison single
  | like =>
      rw [comparison] at later
      cases later
  | _ =>
      rw [comparison] at later otherLater
      obtain ⟨word, _, built⟩ := Result.bind_eq_ok.mp later
      obtain ⟨otherWord, _, otherBuilt⟩ := Result.bind_eq_ok.mp otherLater
      cases built
      cases otherBuilt
      exact SplitColumns.sameShape_ordered ..

end Leaves

namespace Compiler

variable {compiler : Compiler}
  (hook : compiler.backend.lowerings[splitName]? = some lowerSplit)
  (builtIn : compiler.resolver.IsBuiltIn)

include hook builtIn

theorem sameShape_lowerLeaf {first second : Leaf} (form : first.SameForm second)
    (unsplit : first.comparison = .oneOf → ¬ compiler.resolver.AddressesSplit first)
    {negated : Bool} {lowered other : Predicate}
    (success : compiler.lowerLeaf negated first = .ok lowered)
    (otherSuccess : compiler.lowerLeaf negated second = .ok other) : lowered.SameShape other := by
  unfold lowerLeaf at success otherSuccess
  rw [← form.target, compiler.resolver.resolve_congr form] at otherSuccess
  split at success
  next kept =>
    rw [if_pos kept] at otherSuccess
    cases success
    cases otherSuccess
    exact .leaf form
  next moving =>
    rw [if_neg moving] at otherSuccess
    obtain ⟨property, resolved, run⟩ := Result.bind_eq_ok.mp success
    obtain ⟨_, otherResolved, otherRun⟩ := Result.bind_eq_ok.mp otherSuccess
    cases resolved.symm.trans otherResolved
    split at run
    next several =>
      rw [if_pos several] at otherRun
      have split := (builtIn.of_resolve resolved).eq_split several
      have named : property.codec.name = splitName := congrArg Codec.name split
      rw [named, hook] at run otherRun
      obtain ⟨shape, found, built⟩ := Result.bind_eq_ok.mp run
      obtain ⟨otherShape, otherFound, otherBuilt⟩ := Result.bind_eq_ok.mp otherRun
      cases built
      cases otherBuilt
      have single : first.comparison ≠ .oneOf := fun membership =>
        unsplit membership ⟨property, resolved, split⟩
      exact (sameShape_lowerSplitLeaf form single found otherFound).withNegation negated
    next one =>
      rw [if_neg one] at otherRun
      split at run
      next column inOne =>
        rw [inOne] at otherRun
        obtain ⟨shape, found, built⟩ := Result.bind_eq_ok.mp run
        obtain ⟨otherShape, otherFound, otherBuilt⟩ := Result.bind_eq_ok.mp otherRun
        cases built
        cases otherBuilt
        exact (sameShape_columnLeaf form found otherFound).withNegation negated
      next => cases run

end Compiler

/-! ## Lowering trees of the same shape -/

theorem foldAllM_eq_mapM {m : Type → Type} [Monad m] [LawfulMonad m] {β : Type}
    (visit : Predicate → List β → m β) (children : List Predicate) :
    Predicate.foldAllM visit children = children.mapM fun child => child.foldM visit := by
  induction children with
  | nil => rw [Predicate.foldAllM_nil, List.mapM_nil]
  | cons child children ih => rw [Predicate.foldAllM_cons, List.mapM_cons, ih]

theorem Compiler.sameShape_lower {compiler : Compiler}
    (hook : compiler.backend.lowerings[splitName]? = some lowerSplit)
    (builtIn : compiler.resolver.IsBuiltIn) {first second : Predicate}
    (shape : first.SameShape second)
    (unsplit : ∀ leaf ∈ first.leaves, leaf.comparison = .oneOf →
      ¬ compiler.resolver.AddressesSplit leaf)
    {lowered other : Predicate} (success : compiler.lower first = .ok lowered)
    (otherSuccess : compiler.lower second = .ok other) : lowered.SameShape other := by
  rw [lower_eq_foldM] at success otherSuccess
  induction first using Predicate.induction generalizing second lowered other with
  | leafCase negated l =>
      cases shape with
      | leaf form =>
          rw [Predicate.foldM_leaf] at success otherSuccess
          exact sameShape_lowerLeaf hook builtIn form (unsplit l (by simp)) success otherSuccess
  | groupCase negated connective children ih =>
      cases shape with
      | @group _ _ _ otherChildren members =>
          rw [Predicate.foldM_group] at success otherSuccess
          obtain ⟨lowereds, run, built⟩ := Result.bind_eq_ok.mp success
          obtain ⟨others, otherRun, otherBuilt⟩ := Result.bind_eq_ok.mp otherSuccess
          cases built
          cases otherBuilt
          rw [foldAllM_eq_mapM] at run otherRun
          have paired : List.Forall₂ (fun child other => child ∈ children ∧ child.SameShape other)
              children otherChildren :=
            (List.forall₂_and_left _ _).mpr ⟨fun _ member => member, members⟩
          refine .group (Result.forall₂_of_mapM (paired.imp ?_) run otherRun)
          intro child other both result otherResult found otherFound
          have childUnsplit : ∀ leaf ∈ child.leaves, leaf.comparison = .oneOf →
              ¬ compiler.resolver.AddressesSplit leaf := by
            intro leaf leafMember
            apply unsplit leaf
            rw [Predicate.leaves_group]
            exact List.mem_flatMap.mpr ⟨child, both.1, leafMember⟩
          exact ih child both.1 both.2 childUnsplit found otherFound

/-! ## Conditions of the same form -/

namespace Condition

variable {α β γ : Type}

theorem map_map (f : α → β) (g : β → γ) (condition : Condition α) :
    (condition.map f).map g = condition.map fun operand => g (f operand) := by
  induction condition with
  | constant | compare => rfl
  | among => simp [map]
  | pair negated connective left right leftIH rightIH => rw [map, map, map, leftIH, rightIH]

theorem operands_map (f : α → β) (condition : Condition α) :
    (condition.map f).operands = condition.operands.map f := by
  induction condition with
  | constant | compare | among => rfl
  | pair negated connective left right leftIH rightIH =>
      rw [map, operands, operands, leftIH, rightIH, List.map_append]

/-- A condition with nothing for its operands. -/
def form (condition : Condition α) : Condition Unit :=
  condition.map fun _ => ()

theorem form_map (f : α → β) (condition : Condition α) : (condition.map f).form = condition.form :=
  map_map f (fun _ => ()) condition

theorem length_operands_form (condition : Condition α) :
    condition.form.operands.length = condition.operands.length := by
  rw [form, operands_map, List.length_map]

/-- A condition is its form and its operands. -/
theorem eq_of_form {first second : Condition α} (forms : first.form = second.form)
    (same : first.operands = second.operands) : first = second := by
  induction first generalizing second with
  | constant negated truth =>
      cases second <;> cases forms
      rfl
  | compare negated table column comparison operand =>
      cases second <;> cases forms
      cases same
      rfl
  | among negated table column operands =>
      cases second with
      | among =>
          simp only [form, map, among.injEq] at forms
          obtain ⟨rfl, rfl, rfl, _⟩ := forms
          cases same
          rfl
      | _ => cases forms
  | pair negated connective left right leftIH rightIH =>
      cases second with
      | pair otherNegated otherConnective otherLeft otherRight =>
          obtain ⟨rfl, rfl, lefts, rights⟩ := pair.inj forms
          have equallyMany : left.operands.length = otherLeft.operands.length := by
            rw [← length_operands_form, ← length_operands_form otherLeft]
            exact congrArg (fun condition => condition.operands.length) lefts
          obtain ⟨sameLeft, sameRight⟩ := List.append_inj same equallyMany
          rw [leftIH lefts sameLeft, rightIH rights sameRight]
      | _ => cases forms

end Condition

/-- A condition has one text only. -/
theorem Sentence.functional {dialect : Dialect} {condition : Condition String}
    {text other : String} (sentence : Sentence dialect condition text)
    (otherSentence : Sentence dialect condition other) : text = other := by
  induction sentence generalizing other with
  | always | never | compare | among =>
      cases otherSentence
      rfl
  | pair _ _ leftIH rightIH =>
      cases otherSentence with
      | pair left right => rw [leftIH left, rightIH right]

end Sql

/-! ## What trees of the same shape stand for -/

section Conditions

variable {table : String}

theorem Leaf.form_asCondition? {first second : Leaf} (same : first.SameForm second)
    (negated : Bool) :
    (first.asCondition? table negated).map Condition.form =
      (second.asCondition? table negated).map Condition.form := by
  by_cases constant : first.target = .constant
  · rw [same.constant constant]
  · unfold asCondition?
    rw [← same.target, ← same.property, ← same.comparison]
    split
    next found => exact absurd found constant
    next column _ _ =>
      by_cases membership : first.comparison = .oneOf
      · have equallyMany := same.candidates membership
        rw [if_pos membership, if_pos membership]
        cases candidates : first.values with
        | nil =>
            rw [candidates] at equallyMany
            rw [List.length_eq_zero_iff.mp equallyMany.symm]
        | cons v values =>
            cases others : second.values with
            | nil =>
                rw [candidates, others] at equallyMany
                cases equallyMany
            | cons w rest =>
                rw [candidates, others] at equallyMany
                have blanks : (v :: values).map (fun _ => ()) = (w :: rest).map fun _ => () := by
                  rw [List.map_const', List.map_const', equallyMany]
                exact congrArg (fun names => some (Condition.among negated table column names))
                  blanks
      · rw [if_neg membership, if_neg membership]
        rfl
    next => rfl

theorem Predicate.exists_pair_of_asCondition? {negated : Bool} {connective : Connective}
    {children : List Predicate} {condition : Condition Value}
    (read : (Predicate.group negated connective children).asCondition? table = some condition) :
    ∃ left right l r, children = [left, right] ∧ left.asCondition? table = some l ∧
      right.asCondition? table = some r ∧ condition = .pair negated connective l r := by
  unfold asCondition? at read ⊢
  rw [fold_group] at read
  split at read
  next l r members =>
    obtain ⟨left, others, rfl, first, rest⟩ := List.map_eq_cons_iff.mp members
    obtain ⟨right, none, rfl, second, rest⟩ := List.map_eq_cons_iff.mp rest
    cases List.map_eq_nil_iff.mp rest
    cases read
    exact ⟨left, right, l, r, rfl, first, second, rfl⟩
  next => cases read

theorem Predicate.SameShape.form_eq {first second : Predicate} (shape : first.SameShape second)
    {condition other : Condition Value} (read : first.asCondition? table = some condition)
    (otherRead : second.asCondition? table = some other) : condition.form = other.form := by
  induction first using Predicate.induction generalizing second condition other with
  | leafCase negated l =>
      cases shape with
      | leaf same =>
          rw [Sql.Compiler.asCondition?_leaf] at read otherRead
          have forms : (l.asCondition? table negated).map Condition.form = _ :=
            Leaf.form_asCondition? same negated
          rw [read, otherRead] at forms
          exact Option.some.inj forms
  | groupCase negated connective children ih =>
      cases shape with
      | group members =>
          obtain ⟨left, right, l, r, rfl, first, second, rfl⟩ := exists_pair_of_asCondition? read
          obtain ⟨otherLeft, otherRight, otherL, otherR, rfl, otherFirst, otherSecond, rfl⟩ :=
            exists_pair_of_asCondition? otherRead
          obtain ⟨lefts, members⟩ := List.forall₂_cons.mp members
          obtain ⟨rights, _⟩ := List.forall₂_cons.mp members
          have leftForm : l.form = otherL.form := ih left (by simp) lefts first otherFirst
          have rightForm : r.form = otherR.form := ih right (by simp) rights second otherSecond
          exact congrArg₂ (Condition.pair negated connective) leftForm rightForm

end Conditions

namespace Sql.Compiler

theorem exists_reading_condition {compiler : Compiler} {p : Predicate} {statement : Statement}
    (success : compiler.condition p = .ok statement) :
    ∃ physical after bound, compiler.lower p.normalized = .ok physical ∧
      Reading compiler.backend.dialect (physical.normalized.asCondition? compiler.resolver.table)
        (.empty '@') statement.text after bound ∧
      statement.parameters = bound.operands := by
  obtain ⟨_, _, later⟩ := Result.bind_eq_ok.mp success
  obtain ⟨physical, lowered, rendered⟩ := Result.bind_eq_ok.mp later
  obtain ⟨⟨fragments, after⟩, run, built⟩ := Result.bind_eq_ok.mp rendered
  cases built
  rw [Plan.run_ofPredicate] at run
  obtain ⟨bound, reading⟩ := exists_reading rfl run
  refine ⟨physical, after, bound, lowered, reading, ?_⟩
  rw [reading.after, (toList_foldl_bind _ _).2]
  exact reading.names.symm

/-- Conditions of predicates that differ in their literals only have one text and the same
placeholders in the same order, so the literals are found among the bound values alone. -/
theorem condition_hides_literals {compiler : Compiler}
    (hook : compiler.backend.lowerings[splitName]? = some lowerSplit)
    (builtIn : compiler.resolver.IsBuiltIn) {first second : Predicate}
    (shape : first.SameShape second)
    (unsplit : ∀ leaf ∈ first.leaves, leaf.comparison = .oneOf →
      ¬ compiler.resolver.AddressesSplit leaf)
    {statement other : Statement} (success : compiler.condition first = .ok statement)
    (otherSuccess : compiler.condition second = .ok other) :
    statement.text = other.text ∧
      statement.parameters.map (·.name) = other.parameters.map (·.name) := by
  obtain ⟨physical, _, bound, lowered, reading, parameters⟩ := exists_reading_condition success
  obtain ⟨otherPhysical, _, otherBound, otherLowered, otherReading, otherParameters⟩ :=
    exists_reading_condition otherSuccess
  have normalUnsplit : ∀ leaf ∈ first.normalized.leaves, leaf.comparison = .oneOf →
      ¬ compiler.resolver.AddressesSplit leaf := by
    rw [Predicate.leaves_normalized]
    exact unsplit
  have physicalShape : physical.normalized.SameShape otherPhysical.normalized :=
    (sameShape_lower hook builtIn shape.normalized normalUnsplit lowered otherLowered).normalized
  have forms : bound.form = otherBound.form := by
    rw [← bound.form_map (·.value), ← otherBound.form_map (·.value)]
    exact physicalShape.form_eq reading.values otherReading.values
  have equallyMany : bound.operands.length = otherBound.operands.length := by
    rw [← Condition.length_operands_form, ← Condition.length_operands_form otherBound, forms]
  -- the names are numbers, and there are equally many of them
  have names : bound.operands.map (·.name) = otherBound.operands.map (·.name) := by
    rw [reading.names, otherReading.names, map_name_numbered, map_name_numbered, List.length_map,
      List.length_map, equallyMany]
  have same : bound.map (·.name) = otherBound.map (·.name) := by
    apply Condition.eq_of_form
    · rw [Condition.form_map, Condition.form_map, forms]
    · rw [Condition.operands_map, Condition.operands_map, names]
  constructor
  · have sentence := reading.sentence
    rw [same] at sentence
    exact sentence.functional otherReading.sentence
  · rw [parameters, otherParameters, names]

/-- A question about the demonstration collection with room for literals. -/
def question (pattern : String) (balance : UInt64) (keys : List String) : Predicate :=
  .negate (.any [.all [.like "name" pattern, .lessThan "balance" (.uint64 balance)],
    .keys keys, .never])

theorem sameShape_question {pattern otherPattern : String} {balance otherBalance : UInt64}
    {keys otherKeys : List String} (equallyMany : keys.length = otherKeys.length) :
    (question pattern balance keys).SameShape (question otherPattern otherBalance otherKeys) :=
  .group (.cons
    (.pair (.leaf (Leaf.sameForm_compare (by decide) ..))
      (.leaf (Leaf.sameForm_compare (by decide) ..)))
    (.cons (.leaf (Leaf.sameForm_among (by decide) _ (by simpa using equallyMany)))
      (.cons (.leaf (Leaf.SameForm.refl _)) .nil)))

/-- A word above the middle of its range and bits of SQL leave no trace in the text. -/
theorem condition_hides_literals_people :
    ∃ other : Statement,
      (standard Demo.schema .sqlite).condition
        (question "' or _%" 9223372036854775813 [")", "@p9"]) = .ok other ∧
      other.text =
        "not ((((\"people\".\"name\" like @p0) and not ((\"people\".\"balance_hi\" > @p1) or " ++
        "((\"people\".\"balance_hi\" = @p2) and (\"people\".\"balance_lo\" >= @p3)))) or " ++
        "(\"people\".\"id\" in (@p4, @p5))) or (0 = 1))" ∧
      other.parameters.map (·.name) = ["@p0", "@p1", "@p2", "@p3", "@p4", "@p5"] := by
  have success : (standard Demo.schema .sqlite).condition (question "A%" 5 ["p1", "p2"]) =
      .ok
        { text :=
            "not ((((\"people\".\"name\" like @p0) and not ((\"people\".\"balance_hi\" > @p1) or "
            ++ "((\"people\".\"balance_hi\" = @p2) and (\"people\".\"balance_lo\" >= @p3)))) or "
            ++ "(\"people\".\"id\" in (@p4, @p5))) or (0 = 1))"
          parameters := [⟨"@p0", .string "A%"⟩, ⟨"@p1", .int64 0⟩, ⟨"@p2", .int64 0⟩,
            ⟨"@p3", .int64 5⟩, ⟨"@p4", .string "p1"⟩, ⟨"@p5", .string "p2"⟩] } := by
    decide +kernel
  obtain ⟨other, otherSuccess⟩ : ∃ other, (standard Demo.schema .sqlite).condition
      (question "' or _%" 9223372036854775813 [")", "@p9"]) = .ok other :=
    Result.check_eq_ok.mp (by decide +kernel)
  have members : ∀ leaf ∈ (question "A%" 5 ["p1", "p2"]).leaves,
      leaf.comparison = .oneOf → leaf.target = .key := by decide +kernel
  have unsplit : ∀ leaf ∈ (question "A%" 5 ["p1", "p2"]).leaves, leaf.comparison = .oneOf →
      ¬ Demo.schema.resolver.AddressesSplit leaf := by
    intro leaf member membership addressed
    obtain ⟨property, resolved, split⟩ := addressed
    simp only [Resolver.resolve, members leaf member membership] at resolved
    cases resolved
    exact absurd (congrArg Codec.name split) (by decide)
  obtain ⟨text, names⟩ := condition_hides_literals (lowerings_standard .sqlite)
    Schema.isBuiltIn_demo.resolver (sameShape_question (by rfl)) unsplit success otherSuccess
  exact ⟨other, otherSuccess, text.symm, names.symm⟩

end Sql.Compiler

end RecordFilter
