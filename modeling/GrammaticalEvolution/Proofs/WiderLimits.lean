import GrammaticalEvolution.Proofs.FreeDerivations

/-!
# Wider limits

A derivation that breaks no limit is the same under wider limits: every
expansion that the narrow limits allow is allowed by the wide ones, at the same
place and with the same count before it.  So the two go on identically, in
their choices too, until the narrow one breaks a limit.
-/

namespace GrammaticalEvolution

namespace Derivation

variable {σ α β : Type} {narrow wide : DerivationLimits}

/-- The result says that a limit was broken. -/
def LimitBroken (result : Except GrammarError α) : Prop :=
  ∃ depth, result = .error (.recursionLimit depth)

/-- From any state the first step breaks a limit, or the second one does the
same. -/
def Outlasted (first second : Deriving σ α) : Prop :=
  ∀ state, LimitBroken (first.run state).1 ∨
    second.run state = first.run state

namespace Outlasted

theorem refl (step : Deriving σ α) : Outlasted step step :=
  fun _ => .inr rfl

/-- What breaks a limit is outlasted by anything. -/
theorem of_broken (depth : Nat) (second : Deriving σ α) :
    Outlasted (throw (.recursionLimit depth)) second :=
  fun _ => .inl ⟨depth, rfl⟩

theorem bind {first second : Deriving σ α}
    {firstNext secondNext : α → Deriving σ β}
    (head : Outlasted first second)
    (tail : ∀ value, Outlasted (firstNext value) (secondNext value)) :
    Outlasted (first >>= firstNext) (second >>= secondNext) := by
  intro state
  generalize outcome : first.run state = ended
  obtain ⟨result, middle⟩ := ended
  have agree := head state
  rw [outcome] at agree
  rcases agree with ⟨depth, rfl⟩ | same
  · rw [run_bind_error outcome]
    exact .inl ⟨depth, rfl⟩
  · cases result with
    | error error =>
        rw [run_bind_error outcome, run_bind_error same]
        exact .inr rfl
    | ok value =>
        rw [run_bind_ok outcome, run_bind_ok same]
        exact tail value middle

/-- The label of the depth may differ, but it only shows in a broken limit. -/
theorem countExpansion (longer : narrow.maxExpansions ≤ wide.maxExpansions)
    (depth other : Nat) :
    Outlasted (countExpansion narrow depth : Deriving σ Unit)
      (countExpansion wide other) := by
  intro state
  rcases Nat.lt_or_ge state.expansions narrow.maxExpansions with room | full
  · have wideRoom := Nat.lt_of_lt_of_le room longer
    rw [run_countExpansion_ok room, run_countExpansion_ok wideRoom]
    exact .inr rfl
  · rw [run_countExpansion_error full]
    exact .inl ⟨depth, rfl⟩

theorem compositional :
    Compositional fun α => Outlasted (σ := σ) (α := α) where
  pure value := .refl (pure value)
  bind := .bind

/-- With less room and a smaller budget, a non-terminal is derived alike or a
limit is broken. -/
theorem descend {isNonTerminal : Expression → Bool}
    (longer : narrow.maxExpansions ≤ wide.maxExpansions) (produce : Produce σ)
    {room wideRoom : Nat} (deeper : room ≤ wideRoom)
    (nonTerminal : Expression) :
    Outlasted (Derivation.descend isNonTerminal produce narrow room nonTerminal)
      (Derivation.descend isNonTerminal produce wide wideRoom
        nonTerminal) := by
  induction room generalizing wideRoom nonTerminal with
  | zero => exact .of_broken _ _
  | succ room induction =>
      obtain ⟨wideRoom, rfl⟩ := Nat.exists_eq_succ_of_ne_zero
        (Nat.ne_of_gt (Nat.lt_of_lt_of_le (Nat.succ_pos room) deeper))
      rw [Derivation.descend, Derivation.descend]
      apply Outlasted.bind (.countExpansion longer _ _)
      intro counted
      apply Outlasted.bind (.refl (choose produce nonTerminal))
      intro production
      exact compositional.walk (induction (Nat.le_of_succ_le_succ deeper))
        production

end Outlasted

section Wider

variable {ρ : Type} (deeper : narrow.depth ≤ wide.depth)
  (longer : narrow.maxExpansions ≤ wide.maxExpansions)
include deeper longer

/-- A derivation breaks one of the narrow limits or is the same under the wide
ones, with the same choices left. -/
theorem run_of_wider (isNonTerminal : Expression → Bool) (produce : Produce σ)
    (start : Expression) (choices : σ) :
    LimitBroken (run isNonTerminal produce narrow start choices).1 ∨
    run isNonTerminal produce wide start choices =
      run isNonTerminal produce narrow start choices := by
  have outlasted : Outlasted (derive isNonTerminal produce narrow start)
      (derive isNonTerminal produce wide start) :=
    Outlasted.compositional.walk (.descend longer produce deeper) start
  rcases outlasted ⟨0, choices⟩ with broken | same
  · exact .inl broken
  · right
    rw [Derivation.run, Derivation.run, same]

theorem free_of_wider (symbols : FreeSymbolTable ρ) (start : Expression)
    (source : ρ)
    (kept : ¬ LimitBroken (free symbols narrow start source).1) :
    free symbols wide start source = free symbols narrow start source := by
  generalize ran : run symbols.isNonTerminal symbols.expandFreely narrow start
    source = outcome
  obtain ⟨result, rest⟩ := outcome
  have ended := free_of_run symbols ran
  rcases run_of_wider deeper longer symbols.isNonTerminal
    symbols.expandFreely start source with ⟨depth, broken⟩ | same
  · rw [ran] at broken
    obtain rfl : result = .error (.recursionLimit depth) := broken
    rw [ended] at kept
    exact absurd ⟨depth, rfl⟩ kept
  · rw [ended]
    exact free_of_run symbols (same.trans ran)

theorem runGuided_of_wider (symbols : SymbolTable) (cursor : Cursor)
    (kept : ¬ LimitBroken (runGuided symbols narrow cursor).1) :
    runGuided symbols wide cursor = runGuided symbols narrow cursor :=
  (run_of_wider deeper longer symbols.isNonTerminal (produceGuided symbols)
    symbols.start cursor).resolve_left kept

end Wider

/-- A guided derivation breaks a limit, so that the fallback takes the place of
its result. -/
def Recovers (symbols : SymbolTable) (limits : DerivationLimits)
    (genes : Chromosome) : Prop :=
  ∃ nonempty : genes ≠ [],
    LimitBroken (runGuided symbols limits (.start genes nonempty)).1

/-- Wider limits change no derivation that the narrow ones did not end, whatever
the symbols.  A free one has the same result and leaves the same source; a
guided one has the same result after reading as many genes. -/
theorem wider_limits_change_nothing (narrow wide : DerivationLimits)
    (deeper : narrow.depth ≤ wide.depth)
    (longer : narrow.maxExpansions ≤ wide.maxExpansions) :
    (∀ (ρ : Type) (symbols : FreeSymbolTable ρ) (start : Expression)
      (source : ρ),
      (∀ depth, (free symbols narrow start source).1 ≠
        .error (.recursionLimit depth)) →
      free symbols wide start source = free symbols narrow start source) ∧
    ∀ (symbols : SymbolTable) (genes : Chromosome),
      ¬ Recovers symbols narrow genes →
      guided symbols wide genes = guided symbols narrow genes ∧
      ∀ nonempty, (lastCursor symbols wide genes nonempty).consumed =
        (lastCursor symbols narrow genes nonempty).consumed := by
  constructor
  · intro ρ symbols start source kept
    exact free_of_wider deeper longer symbols start source (not_exists.mpr kept)
  · intro symbols genes kept
    have same : ∀ nonempty,
        runGuided symbols wide (.start genes nonempty) =
          runGuided symbols narrow (.start genes nonempty) :=
      fun nonempty => runGuided_of_wider deeper longer symbols _
        fun broken => kept ⟨nonempty, broken⟩
    constructor
    · by_cases nonempty : genes ≠ []
      · rw [guided_start symbols wide nonempty,
          guided_start symbols narrow nonempty, same nonempty]
      · obtain rfl := not_not.mp nonempty
        rfl
    · intro nonempty
      rw [lastCursor, lastCursor, same nonempty]

/-- Ten expansions under the limits that just allow them, and under wide
ones. -/
theorem wider_limits_change_nothing_nestedCalls :
    guided nestedCalls.symbols ⟨1000, 65536⟩ [0, 1, 1, 3, 0, 0, 1, 5, 1, 7] =
      .ok (.list [.symbol "subtract", .integer 3,
        .list [.symbol "add", .integer 5, .integer 7]]) ∧
    (lastCursor nestedCalls.symbols ⟨1000, 65536⟩
      [0, 1, 1, 3, 0, 0, 1, 5, 1, 7] (by decide)).consumed = 10 ∧
    free nestedCalls.symbols.drawing ⟨1000, 65536⟩ (.symbol "exp")
        (ScriptedWords.ofList [0x1000000, 0x3000000, 7]) =
      (.ok (.list [.integer 3]),
        ⟨[0x1000000, 0x3000000, 7], [7]⟩) := by
  obtain ⟨free, guided⟩ := wider_limits_change_nothing ⟨4, 10⟩ ⟨1000, 65536⟩
    (by decide) (by decide)
  have kept : ¬ Recovers nestedCalls.symbols ⟨4, 10⟩
      [0, 1, 1, 3, 0, 0, 1, 5, 1, 7] := by
    rintro ⟨nonempty, depth, broken⟩
    have finished : (runGuided nestedCalls.symbols ⟨4, 10⟩
        (.start [0, 1, 1, 3, 0, 0, 1, 5, 1, 7] (by decide))).1.toBool =
          true := by
      decide +kernel
    rw [broken] at finished
    exact nomatch finished
  obtain ⟨sameResult, sameReads⟩ := guided _ _ kept
  refine ⟨sameResult.trans ?_, (sameReads _).trans ?_, ?_⟩
  · decide +kernel
  · decide +kernel
  · have drawn : Derivation.free nestedCalls.symbols.drawing ⟨4, 10⟩
        (.symbol "exp") (ScriptedWords.ofList [0x1000000, 0x3000000, 7]) =
      (.ok (.list [.integer 3]),
        ⟨[0x1000000, 0x3000000, 7], [7]⟩) := by decide +kernel
    refine (free _ _ _ _ fun depth broken => ?_).trans drawn
    rw [drawn] at broken
    exact nomatch broken

end Derivation

end GrammaticalEvolution
