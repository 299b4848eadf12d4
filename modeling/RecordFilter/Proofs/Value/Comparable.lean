import RecordFilter.Value.Coercion
import RecordFilter.Value.Order

/-!
# Comparable values

Values that can be moved into one type can be compared with each other, unless one of them
is not a number; and moving a value into the type of another leaves their order alone.
The coercions and the order are told apart by the families of values they move within.
-/

set_option autoImplicit false

namespace RecordFilter

def ScalarType.isInstant : ScalarType → Bool
  | int32 | int64 | uint64 | timestamp => true
  | boolean | varchar | float64 => false

namespace Value

def instant? : Value → Option Int
  | timestamp t => some t.toInt
  | v => v.integer?

theorem instant?_of_integer? {v : Value} {n : Int} (integer : v.integer? = some n) :
    v.instant? = some n := by
  cases v <;> first
    | exact integer
    | cases integer

theorem order_of_instant? {v w : Value} {m n : Int} (left : v.instant? = some m)
    (right : w.instant? = some n) : v.order w = some (compare m n) := by
  cases v <;> cases left <;> cases w <;> cases right <;> rfl

theorem instant?_of_type? {v : Value} {type : ScalarType} (typed : v.type? = some type)
    (instant : type.isInstant = true) : ∃ n, v.instant? = some n := by
  cases v <;> cases typed <;> first
    | exact ⟨_, rfl⟩
    | cases instant

theorem number?_of_integer? {v : Value} {n : Int} (integer : v.integer? = some n) :
    v.number? = some (.ofInt n) := by
  cases v <;> cases integer <;> rfl

theorem order_float64 (x : Binary64) (w : Value) :
    (float64 x).order w = w.number?.bind fun y => x.order y := by
  cases w <;> rfl

/-- A coercion by the family it moves within. -/
inductive Coercion : Value → ScalarType → Value → Prop where
  | boolean (b : Bool) : Coercion (.boolean b) .boolean (.boolean b)
  | string (text : String) : Coercion (.string text) .varchar (.string text)
  | instant {v coerced : Value} {type : ScalarType} {n : Int} :
      v.instant? = some n → coerced.instant? = some n → type.isInstant = true →
      Coercion v type coerced
  | float (x : Binary64) : Coercion (.float64 x) .float64 (.float64 x)
  | rounded {v : Value} {n : Int} {x : Binary64} :
      v.integer? = some n → Binary64.ofInt? n = some x → Coercion v .float64 (.float64 x)

private theorem coercion_integer {v coerced : Value} {type : ScalarType} {Word : Type}
    {word? : Int → Option Word} {wrap : Word → Value}
    (moved : (v.integer?.bind word?).map wrap = some coerced)
    (kept : ∀ {n word}, word? n = some word → (wrap word).instant? = some n)
    (instant : type.isInstant = true) : Coercion v type coerced := by
  obtain ⟨word, found, rfl⟩ := Option.map_eq_some_iff.mp moved
  obtain ⟨n, integer, fits⟩ := Option.bind_eq_some_iff.mp found
  exact .instant (instant?_of_integer? integer) (kept fits) instant

theorem coercion_of_coerce {v coerced : Value} {type : ScalarType}
    (moved : v.coerce type = some coerced) : Coercion v type coerced := by
  unfold coerce at moved
  split at moved
  · cases moved
    exact .boolean _
  · cases moved
    exact .string _
  · cases moved
    exact .float _
  · cases moved
    exact .instant rfl rfl rfl
  · cases moved
    exact .instant rfl rfl rfl
  · exact coercion_integer moved (fun fits => congrArg some (int32?_eq_some_iff.mp fits)) rfl
  · exact coercion_integer moved (fun fits => congrArg some (int64?_eq_some_iff.mp fits)) rfl
  · exact coercion_integer moved (fun fits => congrArg some (uint64?_eq_some_iff.mp fits)) rfl
  · exact coercion_integer moved (fun fits => congrArg some (int64?_eq_some_iff.mp fits)) rfl
  · obtain ⟨x, found, rfl⟩ := Option.map_eq_some_iff.mp moved
    obtain ⟨n, integer, exact⟩ := Option.bind_eq_some_iff.mp found
    exact .rounded integer exact
  · cases moved
  · cases moved

theorem coerce_int32 (v : Value) : v.coerce .int32 = (v.integer?.bind int32?).map int32 := by
  cases v <;> simp only [coerce]

theorem coerce_uint64 (v : Value) : v.coerce .uint64 = (v.integer?.bind uint64?).map uint64 := by
  cases v <;> simp only [coerce]

theorem coerce_of_type? {v : Value} {type : ScalarType} (typed : v.type? = some type) :
    v.coerce type = some v := by
  cases v with
  | null => cases typed
  | boolean b => cases typed; rfl
  | string text => cases typed; rfl
  | float64 x => cases typed; rfl
  | timestamp t => cases typed; rfl
  | int32 n =>
      cases typed
      have fits := int32?_eq_some_iff.mpr (Eq.refl n.toInt)
      rw [coerce_int32, integer?, Option.bind_some, fits, Option.map_some]
  | int64 n =>
      cases typed
      have fits := int64?_eq_some_iff.mpr (Eq.refl n.toInt)
      simp only [coerce, integer?, Option.bind_some, fits, Option.map_some]
  | uint64 n =>
      cases typed
      have fits := uint64?_eq_some_iff.mpr (Eq.refl (n.toNat : Int))
      rw [coerce_uint64, integer?, Option.bind_some, fits, Option.map_some]

/-! ## Order along coercions -/

theorem ofInt?_eq_some {n : Int} {x : Binary64} (exact : Binary64.ofInt? n = some x) :
    x = .ofInt n ∧ (Binary64.ofInt n).isNaN = false := by
  unfold Binary64.ofInt? at exact
  split at exact
  next whole =>
    cases exact
    refine ⟨rfl, ?_⟩
    unfold Binary64.toInt? at whole
    split at whole
    · cases whole
    next finite =>
      have below : ¬ Binary64.infinity < (Binary64.ofInt n).magnitude := by omega
      rw [Binary64.isNaN, decide_eq_false below]
  next => cases exact

/-- Moving a value into the type of another does not change how they compare. -/
theorem order_coerce_right {v w coerced : Value} {type : ScalarType}
    (typed : v.type? = some type) (moved : w.coerce type = some coerced) :
    v.order coerced = v.order w := by
  cases coercion_of_coerce moved with
  | boolean b => rfl
  | string text => rfl
  | float x => rfl
  | instant before after instant =>
      obtain ⟨n, value⟩ := instant?_of_type? typed instant
      rw [order_of_instant? value before, order_of_instant? value after]
  | rounded integer exact =>
      obtain ⟨rfl, _⟩ := ofInt?_eq_some exact
      cases v <;> cases typed
      rw [order_float64, order_float64, number?_of_integer? integer]
      rfl

/-- Two values compare, or one of them is not a number. -/
def Comparable (v w : Value) : Prop :=
  (∃ order, v.order w = some order) ∨ v.isNaN = true ∨ w.isNaN = true

private theorem comparable_floats {x y : Binary64} {v w : Value}
    (ordered : v.order w = x.order y) (left : x.isNaN = true → v.isNaN = true)
    (right : y.isNaN = true → w.isNaN = true) : v.Comparable w := by
  unfold Comparable
  rw [ordered, Binary64.order]
  split
  next unordered =>
    rcases Bool.or_eq_true_iff.mp unordered with leftNaN | rightNaN
    · exact .inr (.inl (left leftNaN))
    · exact .inr (.inr (right rightNaN))
  next => exact .inl ⟨_, rfl⟩

theorem comparable_of_coerce {v w left right : Value} {type : ScalarType}
    (leftMoved : v.coerce type = some left) (rightMoved : w.coerce type = some right) :
    v.Comparable w := by
  cases coercion_of_coerce leftMoved with
  | boolean a =>
      cases coercion_of_coerce rightMoved with
      | boolean b => exact .inl ⟨_, rfl⟩
      | instant _ _ instant => cases instant
  | string a =>
      cases coercion_of_coerce rightMoved with
      | string b => exact .inl ⟨_, rfl⟩
      | instant _ _ instant => cases instant
  | instant before _ instant =>
      cases coercion_of_coerce rightMoved with
      | instant rightBefore => exact .inl ⟨_, order_of_instant? before rightBefore⟩
      | boolean | string | float | rounded => cases instant
  | float x =>
      cases coercion_of_coerce rightMoved with
      | float y => exact comparable_floats rfl id id
      | instant _ _ instant => cases instant
      | @rounded _ n y integer exact =>
          obtain ⟨_, notNaN⟩ := ofInt?_eq_some exact
          apply comparable_floats (x := x) (y := .ofInt n) _ id
          · rw [notNaN]
            exact nofun
          · rw [order_float64, number?_of_integer? integer]
            rfl
  | @rounded _ m x integer exact =>
      obtain ⟨_, notNaN⟩ := ofInt?_eq_some exact
      cases coercion_of_coerce rightMoved with
      | instant _ _ instant => cases instant
      | float y =>
          apply comparable_floats (x := .ofInt m) (y := y) _ _ id
          · cases v <;> cases integer <;> rfl
          · rw [notNaN]
            exact nofun
      | rounded rightInteger =>
          exact .inl ⟨_, order_of_instant? (instant?_of_integer? integer)
            (instant?_of_integer? rightInteger)⟩

end Value

end RecordFilter
