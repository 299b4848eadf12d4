import RecordFilter.Proofs.Filter.Soundness

/-!
# Accepted tokens

The parser accepts exactly the tokens that the grammar derives, with the predicate that the
derivation denotes. As the parser gives one answer, so does the grammar: it is unambiguous,
and which word binds closer can be read off short derivations.
-/

set_option autoImplicit false

namespace RecordFilter.Filter

theorem parseTokens_eq_ok_iff {placed : List PlacedToken} {stop : Nat} {p : Predicate} :
    parseTokens placed stop = .ok p ↔ Derives .or (placed.map (·.token)) p :=
  ⟨derives_of_parseTokens, fun derived => derived.parseTokens stop⟩

namespace Derives

variable {left middle right : List Token} {a b c : Predicate}

theorem unique {tokens : List Token} {p q : Predicate} (first : Derives .or tokens p)
    (second : Derives .or tokens q) : p = q := by
  have spelled : (tokens.map fun token => (⟨token, 0⟩ : PlacedToken)).map (·.token) = tokens := by
    rw [List.map_map]
    exact List.map_id tokens
  rw [← spelled] at first second
  exact Except.ok.inj ((first.parseTokens 0).symm.trans (second.parseTokens 0))

theorem iff_eq {tokens : List Token} {p : Predicate} (derived : Derives .or tokens p)
    (q : Predicate) : Derives .or tokens q ↔ q = p := by
  constructor
  · intro other
    exact other.unique derived
  · rintro rfl
    exact derived

theorem and_pair (first : Derives .not left a) (second : Derives .not right b) :
    Derives .and (left ++ .keyword .and :: right) (.all [a, b]) := by
  have chain : Derives .and (Part.chain (.keyword .and) ⟨left, a⟩ [⟨right, b⟩]) (.all [a, b]) :=
    .and (by simpa using And.intro first second)
  rwa [Part.chain_cons, Part.chain_nil] at chain

theorem or_pair (first : Derives .and left a) (second : Derives .and right b) :
    Derives .or (left ++ .keyword .or :: right) (.any [a, b]) := by
  have chain : Derives .or (Part.chain (.keyword .or) ⟨left, a⟩ [⟨right, b⟩]) (.any [a, b]) :=
    .or (by simpa using And.intro first second)
  rwa [Part.chain_cons, Part.chain_nil] at chain

/-- `and` binds closer than `or`, on either side of it. -/
theorem and_within_or (first : Derives .not left a) (second : Derives .not middle b)
    (third : Derives .not right c) :
    Derives .or (left ++ .keyword .or :: middle ++ .keyword .and :: right)
        (.any [a, .all [b, c]]) ∧
      Derives .or (left ++ .keyword .and :: middle ++ .keyword .or :: right)
        (.any [.all [a, b], c]) := by
  constructor
  · rw [List.append_assoc, List.cons_append]
    exact or_pair first.and_of_not (and_pair second third)
  · exact or_pair (and_pair first second) third.and_of_not

/-- `not` binds closer than `and`. -/
theorem not_within_and (first : Derives .primary left a) (second : Derives .not right b) :
    Derives .or (.keyword .not :: left ++ .keyword .and :: right) (.all [a.negate, b]) :=
  or_of_and (and_pair first.plain.inverted second)

end Derives

/-- The parser accepts a list of tokens with a predicate exactly if the tokens derive from
the first nonterminal and the derivation denotes the predicate. What is accepted has exactly
one tree, in which `and` binds closer than `or` and `not` closer than `and`. -/
theorem parseTokens_iff_derives (placed : List PlacedToken) (stop : Nat) :
    (∀ p, parseTokens placed stop = .ok p ↔ Derives .or (placed.map (·.token)) p) ∧
    ((∃ p, parseTokens placed stop = .ok p) ↔ ∃! p, Derives .or (placed.map (·.token)) p) ∧
    (∀ left middle right a b c,
      Derives .not left a → Derives .not middle b → Derives .not right c →
      (∀ p, Derives .or (left ++ .keyword .or :: middle ++ .keyword .and :: right) p ↔
        p = .any [a, .all [b, c]]) ∧
      (∀ p, Derives .or (left ++ .keyword .and :: middle ++ .keyword .or :: right) p ↔
        p = .any [.all [a, b], c])) ∧
    (∀ left right a b, Derives .primary left a → Derives .not right b →
      ∀ p, Derives .or (.keyword .not :: left ++ .keyword .and :: right) p ↔
        p = .all [a.negate, b]) := by
  refine ⟨fun p => parseTokens_eq_ok_iff, ?_, ?_, ?_⟩
  · constructor
    · rintro ⟨p, accepted⟩
      have derived := parseTokens_eq_ok_iff.mp accepted
      exact ⟨p, derived, fun other derivation => derivation.unique derived⟩
    · rintro ⟨p, derived, _⟩
      exact ⟨p, parseTokens_eq_ok_iff.mpr derived⟩
  · intro left middle right a b c first second third
    obtain ⟨behind, before⟩ := Derives.and_within_or first second third
    exact ⟨behind.iff_eq, before.iff_eq⟩
  · intro left right a b first second
    exact (Derives.not_within_and first second).iff_eq

/-- The tokens of `true or not age in (-5) and key like 'p%'`, and what they derive. -/
theorem parseTokens_iff_derives_mixed :
    (∀ p, Derives .or
        [.keyword .true, .keyword .or, .keyword .not, .identifier "age", .keyword .oneOf,
          .symbol .leftParen, .symbol .minus, .number ⟨['5'], none⟩, .symbol .rightParen,
          .keyword .and, .keyword .key, .keyword .like, .string "p%"] p ↔
      p = .any [.constant true,
        .all [.leaf true (.among .value (some "age") [.int64 (-5)]),
          .leaf false (.compare .key .like none (.string "p%"))]]) ∧
    parseTokens
        [⟨.identifier "age", 0⟩, ⟨.keyword .not, 4⟩, ⟨.keyword .like, 8⟩, ⟨.string "x", 13⟩] 16 =
      .ok (.leaf true (.compare .value .like (some "age") (.string "x"))) := by
  have number : DerivesLiteral [.symbol .minus, .number ⟨['5'], none⟩] (.int64 (-5)) :=
    @DerivesLiteral.number true ⟨['5'], none⟩ _ (by decide +kernel)
  have age : DerivesComparison
      [.identifier "age", .keyword .oneOf, .symbol .leftParen, .symbol .minus,
        .number ⟨['5'], none⟩, .symbol .rightParen]
      (.leaf false (.among .value (some "age") [.int64 (-5)])) :=
    @DerivesComparison.among _ _ _ false _ (.field "age")
      (@DerivesLiterals.some ⟨[.symbol .minus, .number ⟨['5'], none⟩], .int64 (-5)⟩ []
        (by simpa using number))
  have key : DerivesComparison [.keyword .key, .keyword .like, .string "p%"]
      (.leaf false (.compare .key .like none (.string "p%"))) :=
    @DerivesComparison.like _ _ false _ .key
  have whole := parseTokens_iff_derives
    [⟨.identifier "age", 0⟩, ⟨.keyword .not, 4⟩, ⟨.keyword .like, 8⟩, ⟨.string "x", 13⟩] 16
  refine ⟨?_, (whole.1 _).mpr ?_⟩
  · exact (whole.2.2.1 _ _ _ _ _ _ (.plain .always) (.inverted (.plain (.comparison age)))
      (.plain (.comparison key))).1
  · exact .or_of_not (.plain (.comparison (@DerivesComparison.like _ _ true _ (.field "age"))))

end RecordFilter.Filter
