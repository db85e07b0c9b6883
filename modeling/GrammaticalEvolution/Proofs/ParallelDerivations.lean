import GrammaticalEvolution.Proofs.GuidedDerivation

/-!
# Two derivations side by side

Derivations that differ only in where their productions come from do the same
as long as the productions are the same: they meet the same non-terminals,
count the same expansions and break the same limits.  The first derivation may
stray, after which nothing is claimed of the second; it has then strayed for
good, so that the end of a run tells whether it ever did.
-/

namespace GrammaticalEvolution

namespace Derivation

/-! ### Relations of steps -/

section Compositional

variable {σ τ : Type} {relates : ∀ α, Deriving σ α → Deriving τ α → Prop}

/-- The relation holds of steps that are put together from related ones. -/
structure Compositional (relates : ∀ α, Deriving σ α → Deriving τ α → Prop) :
    Prop where
  pure : ∀ {α : Type} (value : α), relates α (pure value) (pure value)
  bind : ∀ {α β : Type} {first : Deriving σ α} {second : Deriving τ α}
    {firstNext : α → Deriving σ β} {secondNext : α → Deriving τ β},
    relates α first second →
    (∀ value, relates β (firstNext value) (secondNext value)) →
    relates β (first >>= firstNext) (second >>= secondNext)

variable {isNonTerminal : Expression → Bool}
  {firstDescend : Expression → Deriving σ Expression}
  {secondDescend : Expression → Deriving τ Expression}

mutual

/-- If derivations of single non-terminals are related, so are those of
trees. -/
theorem Compositional.walk (compositional : Compositional relates)
    (descends : ∀ nonTerminal, relates Expression (firstDescend nonTerminal)
      (secondDescend nonTerminal))
    (tree : Expression) :
    relates Expression (walk isNonTerminal firstDescend tree)
      (walk isNonTerminal secondDescend tree) := by
  cases tree with
  | atom value =>
      rw [Derivation.walk, Derivation.walk]
      split
      · exact descends (.atom value)
      · exact compositional.pure _
  | list items =>
      rw [Derivation.walk, Derivation.walk]
      split
      · exact descends (.list items)
      · apply compositional.bind (compositional.walkItems descends items)
        intro derived
        exact compositional.pure _

theorem Compositional.walkItems (compositional : Compositional relates)
    (descends : ∀ nonTerminal, relates Expression (firstDescend nonTerminal)
      (secondDescend nonTerminal))
    (items : List Expression) :
    relates (List Expression) (walkItems isNonTerminal firstDescend items)
      (walkItems isNonTerminal secondDescend items) := by
  cases items with
  | nil =>
      rw [Derivation.walkItems, Derivation.walkItems]
      exact compositional.pure []
  | cons item items =>
      rw [Derivation.walkItems, Derivation.walkItems]
      apply compositional.bind (compositional.walk descends item)
      intro derived
      apply compositional.bind (compositional.walkItems descends items)
      intro others
      exact compositional.pure (derived :: others)

end

end Compositional

/-! ### Derivations alongside -/

variable {σ τ α β : Type} {related : σ → τ → Prop} {strayed : σ → Prop}

/-- From equal counts and related choices the first step strays, or both come
to the same result with equal counts and related choices again. -/
structure Alongside (related : σ → τ → Prop) (strayed : σ → Prop)
    (first : Deriving σ α) (second : Deriving τ α) : Prop where
  stays : ∀ state, strayed state.choices →
    strayed (first.run state).2.choices
  agrees : ∀ count left right, related left right →
    strayed (first.run ⟨count, left⟩).2.choices ∨
    ∃ result after leftRest rightRest,
      first.run ⟨count, left⟩ = (result, ⟨after, leftRest⟩) ∧
      second.run ⟨count, right⟩ = (result, ⟨after, rightRest⟩) ∧
      related leftRest rightRest

/-- The same for the producers of two derivations. -/
structure ProducesAlongside (related : σ → τ → Prop) (strayed : σ → Prop)
    (first : Produce σ) (second : Produce τ) : Prop where
  stays : ∀ nonTerminal choices, strayed choices →
    strayed ((first nonTerminal).run choices).2
  agrees : ∀ nonTerminal left right, related left right →
    strayed ((first nonTerminal).run left).2 ∨
    ∃ result leftRest rightRest,
      (first nonTerminal).run left = (result, leftRest) ∧
      (second nonTerminal).run right = (result, rightRest) ∧
      related leftRest rightRest

namespace Alongside

theorem pure (value : α) :
    Alongside related strayed (pure value : Deriving σ α) (pure value) where
  stays _ wandered := wandered
  agrees count left right paired :=
    .inr ⟨.ok value, count, left, right, rfl, rfl, paired⟩

theorem throw (error : GrammarError) :
    Alongside related strayed (throw error : Deriving σ α) (throw error) where
  stays _ wandered := wandered
  agrees count left right paired :=
    .inr ⟨.error error, count, left, right, rfl, rfl, paired⟩

theorem bind {first : Deriving σ α} {second : Deriving τ α}
    {firstNext : α → Deriving σ β} {secondNext : α → Deriving τ β}
    (head : Alongside related strayed first second)
    (tail : ∀ value,
      Alongside related strayed (firstNext value) (secondNext value)) :
    Alongside related strayed (first >>= firstNext)
      (second >>= secondNext) where
  stays state wandered := by
    have stillStrayed := head.stays state wandered
    generalize outcome : first.run state = ended at stillStrayed
    rcases ended with ⟨error | value, middle⟩
    · rw [run_bind_error outcome]
      exact stillStrayed
    · rw [run_bind_ok outcome]
      exact (tail value).stays middle stillStrayed
  agrees count left right paired := by
    rcases head.agrees count left right paired with
      wandered | ⟨result, after, leftRest, rightRest, leftRan, rightRan, rest⟩
    · left
      generalize outcome : first.run ⟨count, left⟩ = ended at wandered
      rcases ended with ⟨error | value, middle⟩
      · rw [run_bind_error outcome]
        exact wandered
      · rw [run_bind_ok outcome]
        exact (tail value).stays middle wandered
    · cases result with
      | error error =>
          rw [run_bind_error leftRan, run_bind_error rightRan]
          exact .inr ⟨.error error, after, leftRest, rightRest, rfl, rfl, rest⟩
      | ok value =>
          rw [run_bind_ok leftRan, run_bind_ok rightRan]
          exact (tail value).agrees after leftRest rightRest rest

theorem countExpansion (limits : DerivationLimits) (depth : Nat) :
    Alongside related strayed (countExpansion limits depth : Deriving σ Unit)
      (countExpansion limits depth) where
  stays state wandered := by
    rcases Nat.lt_or_ge state.expansions limits.maxExpansions with room | full
    · rw [run_countExpansion_ok room]
      exact wandered
    · rw [run_countExpansion_error full]
      exact wandered
  agrees count left right paired := by
    right
    rcases Nat.lt_or_ge count limits.maxExpansions with room | full
    · exact ⟨.ok (), count + 1, left, right, run_countExpansion_ok room depth,
        run_countExpansion_ok room depth, paired⟩
    · exact ⟨.error (.recursionLimit depth), count, left, right,
        run_countExpansion_error full depth,
        run_countExpansion_error full depth, paired⟩

theorem choose {first : Produce σ} {second : Produce τ}
    (produces : ProducesAlongside related strayed first second)
    (nonTerminal : Expression) :
    Alongside related strayed (choose first nonTerminal)
      (choose second nonTerminal) where
  stays state wandered := by
    have stillStrayed := produces.stays nonTerminal state.choices wandered
    rw [run_choose (Prod.ext rfl rfl)]
    exact stillStrayed
  agrees count left right paired := by
    rcases produces.agrees nonTerminal left right paired with
      wandered | ⟨result, leftRest, rightRest, leftRan, rightRan, rest⟩
    · left
      rw [run_choose (Prod.ext rfl rfl)]
      exact wandered
    · refine .inr ⟨result, count, leftRest, rightRest, ?_, ?_, rest⟩
      · rw [run_choose leftRan]
      · rw [run_choose rightRan]

theorem compositional :
    Compositional fun α => Alongside (α := α) related strayed where
  pure := .pure
  bind := .bind

theorem descend {isNonTerminal : Expression → Bool} {first : Produce σ}
    {second : Produce τ}
    (produces : ProducesAlongside related strayed first second)
    (limits : DerivationLimits) (room : Nat) (nonTerminal : Expression) :
    Alongside related strayed
      (Derivation.descend isNonTerminal first limits room nonTerminal)
      (Derivation.descend isNonTerminal second limits room nonTerminal) := by
  induction room generalizing nonTerminal with
  | zero => exact .throw (.recursionLimit limits.depth)
  | succ room induction =>
      rw [Derivation.descend, Derivation.descend]
      apply Alongside.bind (.countExpansion limits _)
      intro counted
      apply Alongside.bind (.choose produces nonTerminal)
      intro production
      exact compositional.walk induction production

end Alongside

/-- Two derivations of one tree come to the same result, with related choices
left, unless the first strays. -/
theorem ProducesAlongside.run {first : Produce σ} {second : Produce τ}
    (produces : ProducesAlongside related strayed first second)
    (isNonTerminal : Expression → Bool) (limits : DerivationLimits)
    (start : Expression) {left : σ} {right : τ} (paired : related left right) :
    strayed (run isNonTerminal first limits start left).2 ∨
    ∃ result leftRest rightRest,
      run isNonTerminal first limits start left = (result, leftRest) ∧
      run isNonTerminal second limits start right = (result, rightRest) ∧
      related leftRest rightRest := by
  have alongside : Alongside related strayed
      (derive isNonTerminal first limits start)
      (derive isNonTerminal second limits start) :=
    Alongside.compositional.walk (.descend produces limits limits.depth) start
  rcases alongside.agrees 0 left right paired with
    wandered | ⟨result, after, leftRest, rightRest, leftRan, rightRan, rest⟩
  · exact .inl wandered
  · refine .inr ⟨result, leftRest, rightRest, ?_, ?_, rest⟩
    · rw [Derivation.run, leftRan]
    · rw [Derivation.run, rightRan]

end Derivation

end GrammaticalEvolution
