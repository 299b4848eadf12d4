import RecordFilter.Proofs.Wire.Reading

/-!
# The binary form is canonical

Bytes are read as a predicate exactly if they begin with its binary form. So nothing is
lost between writing and reading, no predicate has a second form, and where one form ends
can be told without what stands behind it. Reading goes down as many levels as there are
bytes, and that is no limit: with more levels there would be the same results and faults.
-/

set_option autoImplicit false

namespace RecordFilter

inductive Predicate.IsBounded : Predicate → Prop where
  | leaf {negated : Bool} {l : Leaf} : l.IsBounded → IsBounded (.leaf negated l)
  | group {negated : Bool} {connective : Connective} {children : List Predicate} :
      Wire.IsLength children.length → (∀ child ∈ children, IsBounded child) →
      IsBounded (.group negated connective children)

/-- Predicates of at most the given number of levels. -/
def Predicate.Within : Nat → Predicate → Prop
  | 0, _ => False
  | _ + 1, .leaf _ _ => True
  | levels + 1, .group _ _ children => ∀ child ∈ children, child.Within levels

namespace Wire

variable {bytes rest : List UInt8} {p q : Predicate}

/-! ## Predicates of bounded depth -/

def kindTag : NodeKind → Nat
  | .leaf => 0
  | .group => 1

theorem readKind_eq_ok {kind : NodeKind} :
    readChoice [.leaf, .group] bytes = .ok (kind, rest) ↔
      bytes = encodeTag (kindTag kind) ++ rest :=
  readChoice_tag_eq_ok (by decide) (by simp) (by rintro ⟨⟩ <;> rfl)

/-- A group behind its tag, whatever reads its members. -/
theorem readGroup_eq_ok {reader : Reader Predicate} {fits : Predicate → Prop}
    (reads : ∀ bytes p rest, reader bytes = .ok (p, rest) ↔ fits p ∧ bytes = encode p ++ rest)
    {negated : Bool} :
    (do
      let connective ← readChoice connectives
      let count ← readNat 8
      let children ← readMany reader count
      return .group negated connective children : Reader Predicate) bytes = .ok (p, rest) ↔
      ∃ connective children, p = .group negated connective children ∧
        IsLength children.length ∧ (∀ child ∈ children, fits child) ∧
        bytes = encodeTag (connectiveTag connective) ++ encodeLength children.length ++
          children.flatMap encode ++ rest := by
  simp only [bind_eq_ok, readConnective_eq_ok, readNat_eq_ok, readMany_eq_ok reads, pure_eq_ok,
    encodeLength, List.append_assoc]
  constructor
  · intro accepted
    obtain ⟨connective, _, rfl, _, _, ⟨count, rfl⟩, children, _, ⟨rfl, fit, rfl⟩, rfl, rfl⟩ :=
      accepted
    exact ⟨connective, children, rfl, count, fit, rfl⟩
  · intro written
    obtain ⟨connective, children, rfl, count, fit, rfl⟩ := written
    exact ⟨connective, _, rfl, children.length, _, ⟨count, rfl⟩, children, rest,
      ⟨rfl, fit, rfl⟩, rfl, rfl⟩

/-- A leaf that can be written, or a group of members that fit and whose number can be. -/
def NodeFits (fits : Predicate → Prop) : Predicate → Prop
  | .leaf _ l => l.IsBounded
  | .group _ _ children => IsLength children.length ∧ ∀ child ∈ children, fits child

/-- One node, whatever reads the members of a group. -/
theorem readNode_eq_ok {reader : Reader Predicate} {fits : Predicate → Prop}
    (reads : ∀ bytes p rest, reader bytes = .ok (p, rest) ↔ fits p ∧ bytes = encode p ++ rest) :
    readNode reader bytes = .ok (p, rest) ↔ NodeFits fits p ∧ bytes = encode p ++ rest := by
  simp only [readNode, bind_eq_ok, readTruth_eq_ok, readKind_eq_ok]
  constructor
  · intro accepted
    obtain ⟨negated, _, rfl, kind, _, rfl, read⟩ := accepted
    cases kind with
    | leaf =>
        simp only [bind_eq_ok, readLeaf_eq_ok, pure_eq_ok] at read
        obtain ⟨l, _, ⟨bounded, rfl⟩, rfl, rfl⟩ := read
        refine ⟨bounded, ?_⟩
        simp only [encode_leaf, kindTag, List.append_assoc]
    | group =>
        obtain ⟨connective, children, rfl, count, fit, rfl⟩ := (readGroup_eq_ok reads).mp read
        refine ⟨⟨count, fit⟩, ?_⟩
        simp only [encode_group, kindTag, List.append_assoc]
  · intro written
    obtain ⟨fit, rfl⟩ := written
    cases p with
    | leaf negated l =>
        simp only [encode_leaf, List.append_assoc]
        refine ⟨negated, _, rfl, .leaf, _, rfl, ?_⟩
        exact bind_eq_ok.mpr ⟨l, rest, readLeaf_eq_ok.mpr ⟨fit, rfl⟩, rfl⟩
    | group negated connective children =>
        obtain ⟨count, members⟩ := fit
        simp only [encode_group, List.append_assoc]
        refine ⟨negated, _, rfl, .group, _, rfl, (readGroup_eq_ok reads).mpr ?_⟩
        exact ⟨connective, children, rfl, count, members, by simp only [List.append_assoc]⟩

theorem nodeFits_iff {levels : Nat} :
    NodeFits (fun child => child.IsBounded ∧ child.Within levels) p ↔
      p.IsBounded ∧ p.Within (levels + 1) := by
  cases p with
  | leaf negated l =>
      constructor
      · intro bounded
        exact ⟨.leaf bounded, trivial⟩
      · intro fit
        cases fit.1 with
        | leaf bounded => exact bounded
  | group negated connective children =>
      constructor
      · intro fit
        obtain ⟨count, members⟩ := fit
        exact ⟨.group count fun child member => (members child member).1,
          fun child member => (members child member).2⟩
      · intro fit
        obtain ⟨bounded, within⟩ := fit
        cases bounded with
        | group count members =>
            exact ⟨count, fun child member => ⟨members child member, within child member⟩⟩

/-- The induction is on the levels; the members of a group are read with one less. -/
theorem readPredicate_eq_ok {levels : Nat} :
    readPredicate levels bytes = .ok (p, rest) ↔
      (p.IsBounded ∧ p.Within levels) ∧ bytes = encode p ++ rest := by
  induction levels generalizing bytes rest p with
  | zero =>
      constructor
      · intro accepted
        exact absurd accepted throw_ne_ok
      · intro written
        obtain ⟨⟨_, within⟩, _⟩ := written
        exact within.elim
  | succ levels ih =>
      rw [readPredicate, readNode_eq_ok fun _ _ _ => ih, nodeFits_iff]

/-! ## Levels and bytes -/

/-- Every level has bytes of its own in front of the next. -/
theorem within_length_encode (p : Predicate) {levels : Nat}
    (enough : (encode p).length ≤ levels) : p.Within levels := by
  induction p using Predicate.induction generalizing levels with
  | leafCase negated l =>
      have some : 0 < (encode (.leaf negated l)).length := by simp [encodeTruth]
      cases levels with
      | zero => omega
      | succ levels => trivial
  | groupCase negated connective children ih =>
      simp only [encode_group, encodeTruth, List.length_append, List.length_singleton] at enough
      cases levels with
      | zero => omega
      | succ levels =>
          intro child member
          apply ih child member
          have part : (encode child).length ≤ (children.flatMap encode).length :=
            (List.sublist_flatten_of_mem (List.mem_map_of_mem member)).length_le
          omega

theorem decode_eq_ok :
    decode bytes = .ok (p, rest) ↔ p.IsBounded ∧ bytes = encode p ++ rest := by
  show readPredicate (bytes.length + 1) bytes = _ ↔ _
  rw [readPredicate_eq_ok]
  constructor
  · intro accepted
    obtain ⟨⟨bounded, _⟩, same⟩ := accepted
    exact ⟨bounded, same⟩
  · intro written
    obtain ⟨bounded, rfl⟩ := written
    refine ⟨⟨bounded, within_length_encode p ?_⟩, rfl⟩
    rw [List.length_append]
    omega

section Sparing

variable {α β : Type} {first second : Reader α}

theorem bind_congr_of_ok {next other : α → Reader β} (same : first bytes = second bytes)
    (later : ∀ a middle, first bytes = .ok (a, middle) → next a middle = other a middle) :
    (first >>= next) bytes = (second >>= other) bytes := by
  show first bytes >>= (fun (a, middle) => next a middle) =
    second bytes >>= fun (a, middle) => other a middle
  rw [← same]
  cases read : first bytes with
  | error fault => rfl
  | ok result => exact later result.1 result.2 read

theorem readMany_congr {limit : Nat}
    (agree : ∀ bytes : List UInt8, bytes.length ≤ limit → first bytes = second bytes)
    (shrinks : ∀ bytes a rest, first bytes = .ok (a, rest) → rest.length ≤ bytes.length)
    (count : Nat) (short : bytes.length ≤ limit) :
    readMany first count bytes = readMany second count bytes := by
  induction count generalizing bytes with
  | zero => rfl
  | succ count ih =>
      refine bind_congr_of_ok (agree bytes short) fun a middle read => ?_
      have shorter := shrinks bytes a middle read
      exact bind_congr_of_ok (ih (by omega)) fun _ _ _ => rfl

end Sparing

/-- The members of a group stand behind bytes of the group, so what their reader does with as
many bytes as there are or with more does not matter. -/
theorem readNode_congr {first second : Reader Predicate}
    (agree : ∀ later : List UInt8, later.length < bytes.length → first later = second later)
    (shrinks : ∀ later child rest, first later = .ok (child, rest) →
      rest.length ≤ later.length) :
    readNode first bytes = readNode second bytes := by
  refine bind_congr_of_ok rfl fun negated kindBytes flag => ?_
  refine bind_congr_of_ok rfl fun kind body tag => ?_
  cases kind with
  | leaf => rfl
  | group =>
      refine bind_congr_of_ok rfl fun connective countBytes word => ?_
      refine bind_congr_of_ok rfl fun count members length => ?_
      refine bind_congr_of_ok ?_ fun _ _ _ => rfl
      have inner : members.length < bytes.length := by
        rw [readTruth_eq_ok.mp flag, readKind_eq_ok.mp tag, readConnective_eq_ok.mp word,
          (readNat_eq_ok.mp length).2]
        simp only [List.length_append, encodeTruth, List.length_singleton]
        omega
      exact readMany_congr (fun later short => agree later (Nat.lt_of_le_of_lt short inner))
        shrinks count (Nat.le_refl members.length)

theorem length_of_readPredicate {levels : Nat}
    (read : readPredicate levels bytes = .ok (p, rest)) : rest.length ≤ bytes.length := by
  rw [(readPredicate_eq_ok.mp read).2, List.length_append]
  exact Nat.le_add_left _ _

/-- More levels than bytes make no difference, for faults neither. -/
theorem readPredicate_congr {levels more : Nat} (enough : bytes.length < levels)
    (alsoEnough : bytes.length < more) :
    readPredicate levels bytes = readPredicate more bytes := by
  induction levels generalizing bytes more with
  | zero => omega
  | succ levels ih =>
      cases more with
      | zero => omega
      | succ more =>
          have members (later : List UInt8) (shorter : later.length < bytes.length) :
              readPredicate levels later = readPredicate more later :=
            ih (by omega) (by omega)
          exact readNode_congr members fun _ _ _ => length_of_readPredicate

/-- Reading is a recursion over the nodes in which the number of levels does not occur. -/
theorem decode_eq_readNode (bytes : List UInt8) : decode bytes = readNode decode bytes := by
  have members (later : List UInt8) (shorter : later.length < bytes.length) :
      readPredicate bytes.length later = decode later :=
    readPredicate_congr shorter (Nat.lt_succ_self later.length)
  exact readNode_congr members fun _ _ _ => length_of_readPredicate

/-! ## Prefixes -/

theorem decode_prefix_iff :
    (∃ rest, decode bytes = .ok (p, rest)) ↔ p.IsBounded ∧ encode p <+: bytes := by
  constructor
  · intro accepted
    obtain ⟨rest, read⟩ := accepted
    obtain ⟨bounded, rfl⟩ := decode_eq_ok.mp read
    exact ⟨bounded, List.prefix_append _ _⟩
  · intro written
    obtain ⟨bounded, rest, rfl⟩ := written
    exact ⟨rest, decode_eq_ok.mpr ⟨bounded, rfl⟩⟩

theorem eq_of_encode_prefix (pBounded : p.IsBounded) (qBounded : q.IsBounded)
    (begins : encode p <+: encode q) : p = q := by
  obtain ⟨rest, same⟩ := begins
  have first : decode (encode q) = .ok (p, rest) := decode_eq_ok.mpr ⟨pBounded, same.symm⟩
  have second : decode (encode q) = .ok (q, []) :=
    decode_eq_ok.mpr ⟨qBounded, (List.append_nil _).symm⟩
  cases first.symm.trans second
  rfl

end Wire

theorem Predicate.ofBytes_eq_ok {bytes : List UInt8} {p : Predicate} :
    Predicate.ofBytes bytes = .ok p ↔ p.IsBounded ∧ Wire.encode p <+: bytes := by
  rw [← Wire.decode_prefix_iff, ofBytes, Result.mapError_eq_ok]
  constructor
  · intro read
    cases decoded : Wire.decode bytes with
    | error fault =>
        rw [decoded] at read
        cases read
    | ok result =>
        rw [decoded] at read
        cases read
        exact ⟨result.2, rfl⟩
  · intro written
    obtain ⟨rest, read⟩ := written
    rw [read]
    rfl

/-- Whatever stands behind the binary form of a predicate, it is read as this predicate;
what is read as a predicate begins with its binary form; and no predicate shares its form,
or the beginning of it, with another. -/
theorem Predicate.ofBytes_canonical :
    (∀ (p : Predicate) (rest : List UInt8),
      p.IsBounded → Predicate.ofBytes (Wire.encode p ++ rest) = .ok p) ∧
    (∀ (bytes : List UInt8) (p : Predicate),
      Predicate.ofBytes bytes = .ok p → p.IsBounded ∧ Wire.encode p <+: bytes) ∧
    (∀ p q : Predicate, p.IsBounded → q.IsBounded →
      (Wire.encode p = Wire.encode q → p = q) ∧
      (Wire.encode p <+: Wire.encode q → Wire.encode p = Wire.encode q)) := by
  refine ⟨?_, fun bytes p => Predicate.ofBytes_eq_ok.mp, ?_⟩
  · intro p rest bounded
    exact Predicate.ofBytes_eq_ok.mpr ⟨bounded, List.prefix_append _ _⟩
  · intro p q pBounded qBounded
    constructor
    · intro same
      exact Wire.eq_of_encode_prefix pBounded qBounded (same ▸ List.prefix_refl _)
    · intro begins
      rw [Wire.eq_of_encode_prefix pBounded qBounded begins]

/-- A group with an empty group and a senseless leaf in it, bytes with one byte too many, and
the two zeros. -/
theorem Predicate.ofBytes_canonical_odd :
    Predicate.ofBytes
        (Wire.encode (.group true .or
          [.all [], .leaf true ⟨.key, .oneOf, some "ß", .float64 ⟨0x7ff8000000000001⟩,
            [.null, .string "\n"]⟩]) ++ [7]) =
      .ok (.group true .or
        [.all [], .leaf true ⟨.key, .oneOf, some "ß", .float64 ⟨0x7ff8000000000001⟩,
          [.null, .string "\n"]⟩]) ∧
    Wire.encode (.all []) <+: [0, 1, 0, 0, 0, 0, 0, 0, 0, 0, 0, 0, 0, 0, 0, 0, 0, 7] ∧
    ¬ Wire.encode (.column "x" .equal (.float64 ⟨0⟩)) <+:
      Wire.encode (.column "x" .equal (.float64 ⟨0x8000000000000000⟩)) := by
  obtain ⟨reads, exact, apart⟩ := Predicate.ofBytes_canonical
  have empty : Predicate.IsBounded (.all []) := .group (by decide) (by simp)
  have leaf : Leaf.IsBounded
      ⟨.key, .oneOf, some "ß", .float64 ⟨0x7ff8000000000001⟩, [.null, .string "\n"]⟩ := by
    refine ⟨?_, Value.isBounded_of_text?_eq_none rfl, by decide, ?_⟩
    · rintro _ ⟨⟩
      decide +kernel
    · have text : (Value.string "\n").IsBounded := Value.isBounded_string.mpr (by decide +kernel)
      simpa using And.intro (Value.isBounded_of_text?_eq_none rfl) text
  have zero (x : Binary64) : Predicate.IsBounded (.column "x" .equal (.float64 x)) := by
    refine .leaf ⟨?_, Value.isBounded_of_text?_eq_none rfl, Nat.zero_lt_succ _, by simp [Leaf.compare]⟩
    rintro _ ⟨⟩
    decide +kernel
  refine ⟨reads _ _ (.group (by decide) (by simpa using ⟨empty, .leaf leaf⟩)), ?_, ?_⟩
  · exact (exact _ _ (reads (.all []) [7] empty)).2
  · intro begins
    obtain ⟨injective, whole⟩ := apart _ _ (zero _) (zero _)
    have same := injective (whole begins)
    revert same
    simp [column, ofLeaf, Leaf.compare]

end RecordFilter
