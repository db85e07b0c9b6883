import GrammaticalEvolution.Proofs.DerivedTrees
import GrammaticalEvolution.Proofs.EvaluationErrors

/-!
# Bounds of decoded expressions

No chromosome breaks a derivation by a valid grammar, and what it stands for is
bounded by the limits and by the largest alternative of the grammar.  An
evaluator that nests as many calls as derivations may descend has room for the
result, when no alternative nests lists within a list.
-/

namespace GrammaticalEvolution

/-! ### Measures of a grammar -/

namespace Grammar

/-- The alternatives of all rules. -/
def productions (grammar : Grammar) : List Expression :=
  grammar.rules.flatMap Prod.snd

/-- The greatest size among some expressions. -/
def greatest (size : Expression → Nat) (expressions : List Expression) : Nat :=
  (expressions.map size).foldr max 0

/-- The deepest nesting of lists in an alternative. -/
def deepest (grammar : Grammar) : Nat :=
  greatest Expression.nesting grammar.productions

/-- The most nodes in an alternative. -/
def largest (grammar : Grammar) : Nat :=
  greatest Expression.nodeCount grammar.productions

theorem le_greatest (size : Expression → Nat) {expressions : List Expression}
    {expression : Expression} (member : expression ∈ expressions) :
    size expression ≤ greatest size expressions := by
  induction expressions with
  | nil => cases member
  | cons first others induction =>
      rw [greatest, List.map_cons, List.foldr_cons]
      rcases List.mem_cons.mp member with rfl | later
      · exact Nat.le_max_left _ _
      · exact Nat.le_trans (induction later) (Nat.le_max_right _ _)

/-- What a symbol expands to is an alternative of a rule of that name. -/
theorem mem_of_expand {grammar : Grammar} {nonTerminal production : Expression}
    {gene : Gene}
    (expanded : grammar.expand nonTerminal gene = .ok production) :
    ∃ name alternatives, nonTerminal = .symbol name ∧
      (name, alternatives) ∈ grammar.rules ∧ production ∈ alternatives := by
  unfold expand at expanded
  split at expanded
  · cases expanded
  · next name alternatives found =>
      split at expanded
      · next alternative chosen =>
          cases expanded
          unfold ruleOf? at found
          split at found
          · next symbol =>
              obtain ⟨_, listed, same⟩ := Option.map_eq_some_iff.mp found
              cases same
              obtain ⟨before, after, split, _⟩ :=
                List.lookup_eq_some_iff.mp listed
              refine ⟨name, alternatives, rfl, ?_, List.mem_of_getElem? chosen⟩
              rw [split]
              exact List.mem_append_right before List.mem_cons_self
          · cases found
      · cases expanded

theorem mem_productions_of_expand {grammar : Grammar}
    {nonTerminal production : Expression} {gene : Gene}
    (expanded : grammar.expand nonTerminal gene = .ok production) :
    production ∈ grammar.productions := by
  obtain ⟨name, alternatives, _, rule, member⟩ := mem_of_expand expanded
  exact List.mem_flatMap.mpr ⟨(name, alternatives), rule, member⟩

theorem filled_of_validate {grammar : Grammar}
    (valid : grammar.validate = .ok ()) : Rewriting.Filled grammar := by
  unfold validate at valid
  split at valid
  · cases valid
  · split at valid
    · cases valid
    · next noneEmpty =>
        apply Rewriting.filled_of_rules
        intro rule member empty
        have filled := List.find?_eq_none.mp noneEmpty rule member
        simp [empty] at filled

end Grammar

/-! ### Decoded expressions -/

namespace Derivation

section Decoded

variable {grammar : Grammar} {limits : DerivationLimits}

/-- What is certain of the list that a chromosome stands for: its leaves name
no rules, and its size is bounded by the limits and the alternatives. -/
structure Decoded (grammar : Grammar) (limits : DerivationLimits)
    (decoded : Expression) : Prop where
  list : decoded.isList = true
  terminal : ∀ name, Value.symbol name ∈ decoded.leaves →
    grammar.alternatives? name = none
  nesting : decoded.nesting ≤
    max 1 (min limits.maxDepth maxNesting * grammar.deepest)
  nodeCount : decoded.nodeCount ≤
    max 2 (1 + limits.maxExpansions * (grammar.largest - 1))

theorem decoded_fallback : Decoded grammar limits fallback where
  list := rfl
  terminal name member := by
    have literal : fallback.leaves = [.integer 0] := rfl
    rw [literal, List.mem_singleton] at member
    cases member
  nesting := Nat.le_max_left 1 _
  nodeCount := Nat.le_max_left 2 _

theorem nesting_asList (tree : Expression) :
    tree.asList.nesting = max 1 tree.nesting := by
  cases tree with
  | atom value => rfl
  | list items => exact (Nat.max_eq_right (Nat.le_add_right 1 _)).symm

theorem nodeCount_asList_le (tree : Expression) :
    tree.asList.nodeCount ≤ max 2 tree.nodeCount := by
  cases tree with
  | atom value => exact Nat.le_max_left 2 _
  | list items => exact Nat.le_max_right 2 _

theorem asList_of_isList {tree : Expression} (list : tree.isList = true) :
    tree.asList = tree := by
  cases tree with
  | atom value => cases list
  | list items => rfl

theorem leaves_asList (tree : Expression) :
    tree.asList.leaves = tree.leaves := by
  cases tree with
  | atom value => rfl
  | list items => rfl

theorem alternatives?_of_terminal {name : String}
    (terminal : grammar.isNonTerminal (.symbol name) = false) :
    grammar.alternatives? name = none := by
  simpa [Grammar.isNonTerminal, Grammar.ruleOf?, Expression.symbol]
    using terminal

theorem nodeCount_le_of_expansions {nodes count most largest : Nat}
    (counted : nodes + count ≤ 1 + count * largest) (within : count ≤ most) :
    nodes ≤ 1 + most * (largest - 1) := by
  cases largest with
  | zero => omega
  | succ more =>
      have scaled : count * more ≤ most * more :=
        Nat.mul_le_mul_right more within
      rw [Nat.mul_succ] at counted
      rw [Nat.add_sub_cancel]
      omega

theorem Yields.decoded {count : Nat} {tree : Expression}
    (yields : Yields grammar.symbols limits.depth count
      (.symbol grammar.startName) tree)
    (within : count ≤ limits.maxExpansions) :
    Decoded grammar limits tree.asList where
  list := Expression.isList_asList tree
  terminal name member := by
    rw [leaves_asList] at member
    exact alternatives?_of_terminal (yields.terminal_leaves _ member)
  nesting := by
    have bounded : Bounded grammar.symbols Expression.nesting grammar.deepest :=
      fun _ _ _ expanded => Grammar.le_greatest _
        (Grammar.mem_productions_of_expand expanded)
    have nested := yields.nesting_le bounded
    have wrapped := nesting_asList tree
    rw [Expression.symbol, Expression.nesting, Nat.zero_add] at nested
    change tree.nesting ≤ min limits.maxDepth maxNesting * grammar.deepest
      at nested
    omega
  nodeCount := by
    have bounded :
        Bounded grammar.symbols Expression.nodeCount grammar.largest :=
      fun _ _ _ expanded => Grammar.le_greatest _
        (Grammar.mem_productions_of_expand expanded)
    have counted := nodeCount_le_of_expansions (yields.nodeCount_le bounded)
      within
    have wrapped := nodeCount_asList_le tree
    omega

end Decoded

end Derivation

/-! ### No chromosome breaks a derivation -/

namespace Derivation

/-- Flat alternatives leave room for the widest limit on nested calls. -/
theorem Decoded.nesting_le_of_flat {grammar : Grammar}
    {limits : DerivationLimits} {decoded : Expression}
    (bounds : Decoded grammar limits decoded) (flat : grammar.deepest ≤ 1) :
    decoded.nesting ≤ maxNesting := by
  have nested := bounds.nesting
  have room : min limits.maxDepth maxNesting * grammar.deepest ≤ maxNesting :=
    calc min limits.maxDepth maxNesting * grammar.deepest
        ≤ min limits.maxDepth maxNesting * 1 := Nat.mul_le_mul_left _ flat
      _ ≤ maxNesting := by omega
  have widest : 1 ≤ maxNesting := by decide
  omega

/-- A guided derivation by a valid grammar returns a list without
non-terminals, whatever the chromosome and the limits.  The list is bounded by
the limits, as is the number of genes read, and its evaluation does not exceed
the widest limit when the alternatives of the grammar are flat. -/
theorem guided_decodes (grammar : Grammar) (valid : grammar.validate = .ok ())
    (limits : DerivationLimits) (genes : Chromosome) (nonempty : genes ≠ []) :
    ∃ decoded, guided grammar.symbols limits genes = .ok decoded ∧
      Decoded grammar limits decoded ∧
      (lastCursor grammar.symbols limits genes nonempty).consumed ≤
        limits.maxExpansions ∧
      (grammar.deepest ≤ 1 → ∀ operations resolver,
        Evaluator.RaisesNoLimit operations resolver → ∀ limit,
        (Evaluator.ofOperations operations).evaluateWith resolver decoded ≠
          .error (.depthExceeded limit)) := by
  have filled : Rewriting.Filled grammar := Grammar.filled_of_validate valid
  obtain ⟨reads, ended⟩ := guided_yields filled limits nonempty
  have decodes : ∃ decoded,
      guided grammar.symbols limits genes = .ok decoded ∧
        Decoded grammar limits decoded := by
    rcases ended with fellBack | ⟨tree, returned, yields⟩
    · exact ⟨fallback, fellBack, decoded_fallback⟩
    · exact ⟨tree.asList, returned, yields.decoded reads⟩
  obtain ⟨decoded, returned, bounds⟩ := decodes
  refine ⟨decoded, returned, bounds, reads, ?_⟩
  intro flat operations resolver quiet limit
  apply quiet.evaluateWith
  rw [asList_of_isList bounds.list]
  exact bounds.nesting_le_of_flat flat

/-- Flat calls of calls, with a depth beyond the widest one. -/
theorem guided_decodes_nestedCalls :
    nestedCalls.validate = .ok () ∧ nestedCalls.deepest = 1 ∧
    nestedCalls.largest = 4 ∧
    ∃ decoded, guided nestedCalls.symbols ⟨600, 10⟩
        [0, 1, 1, 3, 0, 0, 1, 5, 1, 7] = .ok decoded ∧
      Decoded nestedCalls ⟨600, 10⟩ decoded ∧
      ∀ limit, Evaluator.arithmetic.evaluate decoded ≠
        .error (.depthExceeded limit) := by
  have valid : nestedCalls.validate = .ok () := by decide +kernel
  have deepest : nestedCalls.deepest = 1 := by decide +kernel
  have largest : nestedCalls.largest = 4 := by decide +kernel
  obtain ⟨decoded, returned, bounds, _, evaluates⟩ :=
    guided_decodes nestedCalls valid ⟨600, 10⟩
      [0, 1, 1, 3, 0, 0, 1, 5, 1, 7] (by decide)
  exact ⟨valid, deepest, largest, decoded, returned, bounds,
    evaluates (Nat.le_of_eq deepest) _ _ Arithmetic.raisesNoLimit_table⟩

end Derivation

end GrammaticalEvolution
