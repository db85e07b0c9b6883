import GrammaticalEvolution.Proofs.GuidedDerivation

/-!
# Trees that derivations yield

`Yields` says what can come out of a tree when each of its non-terminals gives
way to some production, which is derived in turn.  It counts the expansions and
bounds how far productions stand within one another, and it knows of no genes
in particular, no cursor and no budget.  A derivation that succeeds yields its
result, so that properties of the relation, proved by induction on it, hold of
every derivation.
-/

namespace GrammaticalEvolution

mutual

/-- The values at the leaves of an expression, from left to right. -/
def Expression.leaves : Expression → List Value
  | .atom value => [value]
  | .list items => Expression.leavesList items

def Expression.leavesList : List Expression → List Value
  | [] => []
  | item :: items => item.leaves ++ Expression.leavesList items

end

namespace Derivation

mutual

/-- So many expansions turn one tree into another, with at most `room`
productions within one another. -/
inductive Yields (symbols : SymbolTable) :
    (room count : Nat) → Expression → Expression → Prop where
  | leaf {room : Nat} {value : Value}
      (terminal : symbols.isNonTerminal (.atom value) = false) :
      Yields symbols room 0 (.atom value) (.atom value)
  | list {room count : Nat} {items derived : List Expression}
      (terminal : symbols.isNonTerminal (.list items) = false)
      (each : YieldsItems symbols room count items derived) :
      Yields symbols room count (.list items) (.list derived)
  | expansion {room count : Nat} {gene : Gene}
      {nonTerminal production last : Expression}
      (names : symbols.isNonTerminal nonTerminal = true)
      (expanded : symbols.expand nonTerminal gene = .ok production)
      (derived : Yields symbols room count production last) :
      Yields symbols (room + 1) (count + 1) nonTerminal last

/-- List counterpart of `Yields`; the expansions of all items count. -/
inductive YieldsItems (symbols : SymbolTable) :
    (room count : Nat) → List Expression → List Expression → Prop where
  | nil {room : Nat} : YieldsItems symbols room 0 [] []
  | cons {room first later : Nat} {item derived : Expression}
      {items others : List Expression}
      (head : Yields symbols room first item derived)
      (tail : YieldsItems symbols room later items others) :
      YieldsItems symbols room (first + later) (item :: items)
        (derived :: others)

end

/-! ### Derivations yield their results -/

section Sound

variable {σ α β : Type} {symbols : SymbolTable} {room : Nat}
  {state after : DerivationState σ}

theorem run_bind_eq_ok {action : Deriving σ α} {next : α → Deriving σ β}
    {value : β} (ran : (action >>= next).run state = (.ok value, after)) :
    ∃ first middle, action.run state = (.ok first, middle) ∧
      (next first).run middle = (.ok value, after) := by
  generalize outcome : action.run state = result
  rcases result with ⟨error | first, middle⟩
  · rw [run_bind_error outcome] at ran
    cases ran
  · rw [run_bind_ok outcome] at ran
    exact ⟨first, middle, rfl, ran⟩

theorem run_countExpansion_eq_ok {limits : DerivationLimits} {depth : Nat}
    (ran : (countExpansion limits depth).run state = (.ok (), after)) :
    after = { state with expansions := state.expansions + 1 } := by
  rcases Nat.lt_or_ge state.expansions limits.maxExpansions with left | full
  · rw [run_countExpansion_ok left] at ran
    cases ran
    rfl
  · rw [run_countExpansion_error full] at ran
    cases ran

/-- Every chosen production is the expansion by some gene. -/
def Expands (symbols : SymbolTable) (produce : Produce σ) : Prop :=
  ∀ nonTerminal choices, ∃ gene,
    ((produce nonTerminal).run choices).1 = symbols.expand nonTerminal gene

theorem run_choose_eq_ok {produce : Produce σ}
    (expands : Expands symbols produce) {nonTerminal production : Expression}
    (ran : (choose produce nonTerminal).run state = (.ok production, after)) :
    after.expansions = state.expansions ∧
      ∃ gene, symbols.expand nonTerminal gene = .ok production := by
  obtain ⟨gene, expanded⟩ := expands nonTerminal state.choices
  rw [run_choose (Prod.ext expanded rfl)] at ran
  obtain ⟨chosen, rfl⟩ := Prod.mk.inj ran
  exact ⟨rfl, gene, chosen⟩

/-- A way to derive single non-terminals yields its results. -/
def YieldsResults (symbols : SymbolTable) (room : Nat)
    (descend : Expression → Deriving σ Expression) : Prop :=
  ∀ nonTerminal last state after,
    symbols.isNonTerminal nonTerminal = true →
    (descend nonTerminal).run state = (.ok last, after) →
    ∃ count, Yields symbols room count nonTerminal last ∧
      after.expansions = state.expansions + count

mutual

theorem YieldsResults.walk {descend : Expression → Deriving σ Expression}
    (yields : YieldsResults symbols room descend) (tree : Expression)
    {last : Expression} {state after : DerivationState σ}
    (ran : (walk symbols.isNonTerminal descend tree).run state =
      (.ok last, after)) :
    ∃ count, Yields symbols room count tree last ∧
      after.expansions = state.expansions + count := by
  cases tree with
  | atom value =>
      rw [Derivation.walk] at ran
      by_cases names : symbols.isNonTerminal (.atom value) = true
      · rw [if_pos names] at ran
        exact yields _ _ _ _ names ran
      · rw [if_neg names] at ran
        cases ran
        exact ⟨0, .leaf (Bool.eq_false_iff.mpr names), rfl⟩
  | list items =>
      rw [Derivation.walk] at ran
      by_cases names : symbols.isNonTerminal (.list items) = true
      · rw [if_pos names] at ran
        exact yields _ _ _ _ names ran
      · rw [if_neg names] at ran
        obtain ⟨derived, middle, walked, returned⟩ := run_bind_eq_ok ran
        cases returned
        obtain ⟨count, each, counted⟩ := yields.walkItems items walked
        exact ⟨count, .list (Bool.eq_false_iff.mpr names) each, counted⟩

/-- List counterpart of `YieldsResults.walk`. -/
theorem YieldsResults.walkItems {descend : Expression → Deriving σ Expression}
    (yields : YieldsResults symbols room descend) (items : List Expression)
    {derived : List Expression} {state after : DerivationState σ}
    (ran : (walkItems symbols.isNonTerminal descend items).run state =
      (.ok derived, after)) :
    ∃ count, YieldsItems symbols room count items derived ∧
      after.expansions = state.expansions + count := by
  cases items with
  | nil =>
      rw [Derivation.walkItems] at ran
      cases ran
      exact ⟨0, .nil, rfl⟩
  | cons item items =>
      rw [Derivation.walkItems] at ran
      obtain ⟨head, middle, walkedHead, ran⟩ := run_bind_eq_ok ran
      obtain ⟨tail, final, walkedTail, returned⟩ := run_bind_eq_ok ran
      cases returned
      obtain ⟨first, headYields, headCount⟩ := yields.walk item walkedHead
      obtain ⟨later, tailYields, tailCount⟩ :=
        yields.walkItems items walkedTail
      refine ⟨first + later, .cons headYields tailYields, ?_⟩
      rw [tailCount, headCount, Nat.add_assoc]

end

theorem yieldsResults_descend {produce : Produce σ}
    (expands : Expands symbols produce) (limits : DerivationLimits)
    (room : Nat) :
    YieldsResults symbols room
      (descend symbols.isNonTerminal produce limits room) := by
  induction room with
  | zero =>
      intro nonTerminal last state after names ran
      cases ran
  | succ room induction =>
      intro nonTerminal last state after names ran
      rw [descend] at ran
      obtain ⟨_, middle, counting, ran⟩ := run_bind_eq_ok ran
      obtain ⟨production, chosen, choosing, ran⟩ := run_bind_eq_ok ran
      obtain ⟨sameCount, gene, expanded⟩ := run_choose_eq_ok expands choosing
      obtain ⟨count, derived, total⟩ := induction.walk production ran
      refine ⟨count + 1, .expansion names expanded derived, ?_⟩
      have counted := run_countExpansion_eq_ok counting
      rw [total, sameCount, counted]
      exact Nat.add_right_comm _ 1 count

/-- What a derivation returns is yielded by its start. -/
theorem yields_of_derive {produce : Produce σ}
    (expands : Expands symbols produce) {limits : DerivationLimits}
    {start last : Expression}
    (ran : (derive symbols.isNonTerminal produce limits start).run state =
      (.ok last, after)) :
    ∃ count, Yields symbols limits.depth count start last ∧
      after.expansions = state.expansions + count :=
  (yieldsResults_descend expands limits limits.depth).walk start ran

end Sound

/-! ### Properties of the trees -/

section Trees

variable {symbols : SymbolTable}

mutual

/-- No leaf is left that is a non-terminal. -/
theorem Yields.terminal_leaves {room count : Nat} {tree last : Expression} :
    Yields symbols room count tree last →
    ∀ value ∈ last.leaves, symbols.isNonTerminal (.atom value) = false
  | .leaf terminal => by
      intro value member
      rw [Expression.leaves, List.mem_singleton] at member
      rw [member]
      exact terminal
  | .list _ each => YieldsItems.terminal_leaves each
  | .expansion _ _ derived => Yields.terminal_leaves derived

/-- List counterpart of `Yields.terminal_leaves`. -/
theorem YieldsItems.terminal_leaves {room count : Nat}
    {items derived : List Expression} :
    YieldsItems symbols room count items derived →
    ∀ value ∈ Expression.leavesList derived,
      symbols.isNonTerminal (.atom value) = false
  | .nil => by simp [Expression.leavesList]
  | .cons head tail => by
      intro value member
      rw [Expression.leavesList, List.mem_append] at member
      rcases member with first | later
      · exact Yields.terminal_leaves head value first
      · exact YieldsItems.terminal_leaves tail value later

end

/-- No production is larger than a bound, in some sense of size. -/
def Bounded (symbols : SymbolTable) (size : Expression → Nat) (bound : Nat) :
    Prop :=
  ∀ nonTerminal gene production,
    symbols.expand nonTerminal gene = .ok production → size production ≤ bound

mutual

/-- Productions of bounded nesting add as much for each of them that stands
within another. -/
theorem Yields.nesting_le {deepest : Nat}
    (bounded : Bounded symbols Expression.nesting deepest) {room count : Nat}
    {tree last : Expression} :
    Yields symbols room count tree last →
    last.nesting ≤ tree.nesting + room * deepest
  | .leaf _ => Nat.le_add_right _ _
  | .list _ each => by
      have inner := YieldsItems.nesting_le bounded each
      simp only [Expression.nesting]
      omega
  | .expansion _ expanded derived => by
      have inner := Yields.nesting_le bounded derived
      have outer := bounded _ _ _ expanded
      rw [Nat.succ_mul]
      omega

/-- List counterpart of `Yields.nesting_le`. -/
theorem YieldsItems.nesting_le {deepest : Nat}
    (bounded : Bounded symbols Expression.nesting deepest) {room count : Nat}
    {items derived : List Expression} :
    YieldsItems symbols room count items derived →
    Expression.nestingList derived ≤
      Expression.nestingList items + room * deepest
  | .nil => Nat.zero_le _
  | .cons head tail => by
      have first := Yields.nesting_le bounded head
      have others := YieldsItems.nesting_le bounded tail
      simp only [Expression.nestingList]
      omega

end

theorem nodeCount_pos (tree : Expression) : 0 < tree.nodeCount := by
  cases tree with
  | atom value => exact Nat.zero_lt_one
  | list items =>
      rw [Expression.nodeCount]
      omega

mutual

/-- Each expansion puts a production in place of at least one node. -/
theorem Yields.nodeCount_le {largest : Nat}
    (bounded : Bounded symbols Expression.nodeCount largest) {room count : Nat}
    {tree last : Expression} :
    Yields symbols room count tree last →
    last.nodeCount + count ≤ tree.nodeCount + count * largest
  | .leaf _ => Nat.le_add_right _ _
  | .list _ each => by
      have inner := YieldsItems.nodeCount_le bounded each
      simp only [Expression.nodeCount]
      omega
  | .expansion _ expanded derived => by
      have inner := Yields.nodeCount_le bounded derived
      have outer := bounded _ _ _ expanded
      have replaced := nodeCount_pos tree
      rw [Nat.succ_mul]
      omega

/-- List counterpart of `Yields.nodeCount_le`. -/
theorem YieldsItems.nodeCount_le {largest : Nat}
    (bounded : Bounded symbols Expression.nodeCount largest) {room count : Nat}
    {items derived : List Expression} :
    YieldsItems symbols room count items derived →
    Expression.nodeCountList derived + count ≤
      Expression.nodeCountList items + count * largest
  | .nil => Nat.le_add_right _ _
  | .cons head tail => by
      have first := Yields.nodeCount_le bounded head
      have others := YieldsItems.nodeCount_le bounded tail
      simp only [Expression.nodeCountList, Nat.add_mul]
      omega

end

end Trees

/-! ### Guided derivations of grammars -/

open Rewriting

theorem expands_produceGuided (symbols : SymbolTable) :
    Expands symbols (produceGuided symbols) :=
  fun _ cursor => ⟨cursor.read.1, rfl⟩

/-- The cursor that a guided derivation leaves. -/
def lastCursor (symbols : SymbolTable) (limits : DerivationLimits)
    (genes : Chromosome) (nonempty : genes ≠ []) : Cursor :=
  (runGuided symbols limits (.start genes nonempty)).2

theorem guided_start (symbols : SymbolTable) (limits : DerivationLimits)
    {genes : Chromosome} (nonempty : genes ≠ []) :
    guided symbols limits genes =
      settle (runGuided symbols limits (.start genes nonempty)).1 := by
  rw [guided, Cursor.ofGenes?_start nonempty]

/-- A guided derivation reads no more genes than the limits allow expansions.
What it returns, unless it falls back, is yielded by as many expansions as
genes were read. -/
theorem guided_yields {grammar : Grammar} (filled : Filled grammar)
    (limits : DerivationLimits) {genes : Chromosome} (nonempty : genes ≠ []) :
    (lastCursor grammar.symbols limits genes nonempty).consumed ≤
        limits.maxExpansions ∧
      (guided grammar.symbols limits genes = .ok fallback ∨
        ∃ tree, guided grammar.symbols limits genes = .ok tree.asList ∧
          Yields grammar.symbols limits.depth
            (lastCursor grammar.symbols limits genes nonempty).consumed
            (.symbol grammar.startName) tree) := by
  have fresh := Cursor.ofGenes?_start nonempty
  have matched := derive_matches filled limits fresh
  generalize outcome : (derive grammar.isNonTerminal
    (produceGuided grammar.symbols) limits (.symbol grammar.startName)).run
    ⟨0, .start genes nonempty⟩ = result at matched
  have ran : runGuided grammar.symbols limits (.start genes nonempty) =
      (result.1, result.2.choices) := by
    rw [← outcome]
    rfl
  have reads : (lastCursor grammar.symbols limits genes nonempty).consumed =
      result.2.choices.consumed := by
    rw [lastCursor, ran]
  have consumed (count : Nat) : (stateAt (fun time =>
      ((Cursor.start genes nonempty).readMany time).2)
      (0 + count)).choices.consumed = count := by
    rw [Nat.zero_add]
    exact Cursor.consumed_readMany_start nonempty count
  cases matched with
  | @finished count paths last reached closed =>
      obtain ⟨steps, yields, counted⟩ :=
        yields_of_derive (expands_produceGuided grammar.symbols) outcome
      obtain rfl : count = steps := by simpa [stateAt] using counted
      rw [reads, consumed]
      refine ⟨Nat.zero_add count ▸ reached.affordable, .inr ⟨last, ?_, yields⟩⟩
      simp only [guided, fresh, ran, settle]
  | @broken count depth paths last site reached opened exceeded =>
      rw [reads, consumed]
      refine ⟨Nat.zero_add count ▸ reached.affordable, .inl ?_⟩
      simp only [guided, fresh, ran, settle]

end Derivation

end GrammaticalEvolution
