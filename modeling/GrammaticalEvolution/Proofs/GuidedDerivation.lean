import GrammaticalEvolution.Proofs.LeftmostRewriting

/-!
# Guided derivations rewrite leftmost

The recursion of a derivation, with its shared cursor and its shared count of
expansions, is matched step by step with leftmost rewriting.  A part of the
tree that is derived with room for so many nested expansions is rewritten
below that bound, and a broken limit leaves a symbol behind whose own rewrite
would break it.  The main statement says that a guided derivation yields the
end of the rewriting if the limits allow it, and the fallback otherwise.
-/

namespace GrammaticalEvolution

namespace Derivation

/-! ### Running the steps of a derivation -/

section Running

variable {σ α β : Type} {state after : DerivationState σ}

theorem run_bind_ok {action : Deriving σ α} {next : α → Deriving σ β}
    {value : α} (first : action.run state = (.ok value, after)) :
    (action >>= next).run state = (next value).run after := by
  rw [ExceptT.run_bind]
  simp [bind, StateT.bind, first]

theorem run_bind_error {action : Deriving σ α} {next : α → Deriving σ β}
    {error : GrammarError} (first : action.run state = (.error error, after)) :
    (action >>= next).run state = (.error error, after) := by
  rw [ExceptT.run_bind]
  simp [bind, StateT.bind, first]
  rfl

theorem run_countExpansion_ok {limits : DerivationLimits}
    (room : state.expansions < limits.maxExpansions) (depth : Nat) :
    (countExpansion limits depth).run state =
      (.ok (), { state with expansions := state.expansions + 1 }) := by
  unfold countExpansion
  change (if limits.maxExpansions ≤ state.expansions then _ else _ :
    Deriving σ Unit).run state = _
  rw [if_neg (Nat.not_le_of_gt room)]
  rfl

theorem run_countExpansion_error {limits : DerivationLimits}
    (full : limits.maxExpansions ≤ state.expansions) (depth : Nat) :
    (countExpansion limits depth).run state =
      (.error (.recursionLimit depth), state) := by
  unfold countExpansion
  change (if limits.maxExpansions ≤ state.expansions then _ else _ :
    Deriving σ Unit).run state = _
  rw [if_pos full]
  rfl

theorem run_choose {produce : Produce σ} {nonTerminal : Expression}
    {result : Except GrammarError Expression} {choices : σ}
    (produced : (produce nonTerminal).run state.choices = (result, choices)) :
    (choose produce nonTerminal).run state =
      (result, { state with choices := choices }) := by
  have read : (get : Deriving σ (DerivationState σ)).run state =
      (.ok state, state) := rfl
  rw [choose, run_bind_ok read]
  rw [produced]
  cases result <;> rfl

end Running

/-! ### The simulation -/

open Rewriting

section Simulation

variable {σ : Type} {grammar : Grammar} {word : Nat → Gene}
  {choices : Nat → σ} {budget bound time : Nat}

/-- Productions are chosen by the genes of a word, one after the other.  The
choices left after so many of them are given. -/
def Follows (grammar : Grammar) (produce : Produce σ) (word : Nat → Gene)
    (choices : Nat → σ) : Prop :=
  ∀ time nonTerminal, (produce nonTerminal).run (choices time) =
    (grammar.expand nonTerminal (word time), choices (time + 1))

def stateAt (choices : Nat → σ) (time : Nat) : DerivationState σ :=
  ⟨time, choices time⟩

/-- How the derivation of a tree ends, in terms of rewriting: with the closed
tree that rewriting reaches, or at a symbol whose rewrite would break a
limit. -/
inductive Matches (grammar : Grammar) (word : Nat → Gene)
    (choices : Nat → σ) (budget bound time : Nat) (tree : Expression) :
    Except GrammarError Expression × DerivationState σ → Prop where
  | finished {count : Nat} {paths : List Path} {last : Expression}
      (reached : Reaches grammar word budget bound time tree count paths last)
      (closed : Closed grammar last) :
      Matches grammar word choices budget bound time tree
        (.ok last, stateAt choices (time + count))
  | broken {count depth : Nat} {paths : List Path} {last : Expression}
      {site : Site}
      (reached : Reaches grammar word budget bound time tree count paths last)
      (opened : leftmost? grammar last = some site)
      (exceeded :
        bound ≤ ancestors paths site.path ∨ budget ≤ time + count) :
      Matches grammar word choices budget bound time tree
        (.error (.recursionLimit depth), stateAt choices (time + count))

/-- How the derivation of items ends that follow closed ones in a list.  All
rewrites lie in the items themselves. -/
inductive MatchesItems (grammar : Grammar) (word : Nat → Gene)
    (choices : Nat → σ) (budget bound time : Nat)
    (done items : List Expression) :
    Except GrammarError (List Expression) × DerivationState σ → Prop where
  | finished {count : Nat} {paths : List Path} {derived : List Expression}
      (reached : Reaches grammar word budget bound time
        (.list (done ++ items)) count paths (.list (done ++ derived)))
      (inside : ∀ path ∈ paths, Beyond done.length path)
      (closed : ∀ item ∈ derived, Closed grammar item) :
      MatchesItems grammar word choices budget bound time done items
        (.ok derived, stateAt choices (time + count))
  | broken {count depth : Nat} {paths : List Path} {last : Expression}
      {site : Site}
      (reached : Reaches grammar word budget bound time
        (.list (done ++ items)) count paths last)
      (inside : ∀ path ∈ paths, Beyond done.length path)
      (opened : leftmost? grammar last = some site)
      (siteInside : Beyond done.length site.path)
      (exceeded :
        bound ≤ ancestors paths site.path ∨ budget ≤ time + count) :
      MatchesItems grammar word choices budget bound time done items
        (.error (.recursionLimit depth), stateAt choices (time + count))

theorem Matches.ofItems {items : List Expression}
    {action : Deriving σ (List Expression)}
    (matched : MatchesItems grammar word choices budget bound time [] items
      (action.run (stateAt choices time))) :
    Matches grammar word choices budget bound time (.list items)
      ((do let derived ← action; return .list derived : Deriving σ _).run
        (stateAt choices time)) := by
  generalize outcome : action.run (stateAt choices time) = result at matched
  cases matched with
  | finished reached inside closed =>
      rw [run_bind_ok outcome]
      exact .finished reached (closed_list closed)
  | broken reached inside opened siteInside exceeded =>
      rw [run_bind_error outcome]
      exact .broken reached opened exceeded

theorem MatchesItems.cons {done items : List Expression} {item : Expression}
    {action : Deriving σ Expression} {others : Deriving σ (List Expression)}
    (doneClosed : ∀ item ∈ done, Closed grammar item)
    (head : Matches grammar word choices budget bound time item
      (action.run (stateAt choices time)))
    (tail : ∀ time first, time ≤ budget → Closed grammar first →
      MatchesItems grammar word choices budget bound time (done ++ [first])
        items (others.run (stateAt choices time))) :
    MatchesItems grammar word choices budget bound time done (item :: items)
      ((do
        let first ← action
        let rest ← others
        return first :: rest : Deriving σ _).run
          (stateAt choices time)) := by
  generalize outcome : action.run (stateAt choices time) = result at head
  cases head with
  | @broken count depth paths last site reached opened exceeded =>
      rw [run_bind_error outcome]
      refine .broken (reached.inItem doneClosed items) (beyond_inItem _ paths)
        (leftmost?_item doneClosed opened items)
        ⟨done.length, site.path, rfl, Nat.le_refl _⟩ ?_
      rw [Site.inItem, ancestors_inItem]
      exact exceeded
  | @finished count paths last reached closed =>
      rw [run_bind_ok outcome]
      have lifted := reached.inItem doneClosed items
      have next : done.length + 1 = (done ++ [last]).length := by simp
      have rest := tail (time + count) last reached.affordable closed
      generalize later :
        others.run (stateAt choices (time + count)) = result at rest
      cases rest with
      | @broken laterCount depth laterPaths final site laterReached inside
          opened siteInside exceeded =>
          rw [run_bind_error later, Nat.add_assoc]
          rw [← next] at inside siteInside
          rw [← List.append_cons] at laterReached
          refine .broken (lifted.thenLater reached.shallow laterReached inside)
            ?_ opened (siteInside.mono (Nat.le_succ _)) ?_
          · exact beyond_append (beyond_inItem _ paths) inside
          · rw [ancestors_append, ancestors_eq_zero siteInside, Nat.zero_add,
              ← Nat.add_assoc]
            exact exceeded
      | @finished laterCount laterPaths derived laterReached inside
          laterClosed =>
          rw [run_bind_ok later, Nat.add_assoc]
          rw [← next] at inside
          simp only [← List.append_cons] at laterReached
          exact .finished
            (lifted.thenLater reached.shallow laterReached inside)
            (beyond_append (beyond_inItem _ paths) inside)
            (List.forall_mem_cons.mpr ⟨closed, laterClosed⟩)

/-- A symbol is derived by deriving its production, one rewrite later and one
rewrite deeper. -/
theorem Matches.ofProduction {symbol production : Expression}
    {outcome : Except GrammarError Expression × DerivationState σ}
    (step : rewrite? grammar (word time) symbol = some ([], production))
    (matched : Matches grammar word choices budget bound (time + 1) production
      outcome) :
    Matches grammar word choices budget (bound + 1) time symbol outcome := by
  cases matched with
  | @finished count paths last reached closed =>
      rw [Nat.add_assoc, Nat.add_comm 1 count]
      exact .finished (reached.ofProduction step) closed
  | @broken count depth paths last site reached opened exceeded =>
      rw [Nat.add_assoc, Nat.add_comm 1 count] at exceeded ⊢
      refine .broken (reached.ofProduction step) opened ?_
      rw [ancestors_root_cons, Nat.add_le_add_iff_right]
      exact exceeded

def Descends (grammar : Grammar) (word : Nat → Gene) (choices : Nat → σ)
    (budget bound : Nat) (descend : Expression → Deriving σ Expression) :
    Prop :=
  ∀ time value, time ≤ budget → grammar.isNonTerminal (.atom value) = true →
    Matches grammar word choices budget bound time (.atom value)
      ((descend (.atom value)).run (stateAt choices time))

mutual

/-- If single symbols are derived as they are rewritten, so are trees. -/
theorem Descends.walk {descend : Expression → Deriving σ Expression}
    (descends : Descends grammar word choices budget bound descend)
    (tree : Expression) (time : Nat) (affordable : time ≤ budget) :
    Matches grammar word choices budget bound time tree
      ((walk grammar.isNonTerminal descend tree).run
        (stateAt choices time)) := by
  cases tree with
  | atom value =>
      rw [Derivation.walk]
      by_cases names : grammar.isNonTerminal (.atom value) = true
      · rw [if_pos names]
        exact descends time value affordable names
      · rw [if_neg names]
        exact .finished (.refl affordable _) (closed_atom names)
  | list items =>
      rw [Derivation.walk,
        if_neg (by simp [Grammar.isNonTerminal, Grammar.ruleOf?])]
      exact .ofItems (descends.walkItems [] (by simp) items time affordable)

/-- List counterpart of `Descends.walk`, after closed items. -/
theorem Descends.walkItems {descend : Expression → Deriving σ Expression}
    (descends : Descends grammar word choices budget bound descend)
    (done : List Expression) (doneClosed : ∀ item ∈ done, Closed grammar item)
    (items : List Expression) (time : Nat) (affordable : time ≤ budget) :
    MatchesItems grammar word choices budget bound time done items
      ((walkItems grammar.isNonTerminal descend items).run
        (stateAt choices time)) := by
  cases items with
  | nil =>
      rw [Derivation.walkItems]
      exact .finished (.refl affordable _) (by simp) (by simp)
  | cons item items =>
      rw [Derivation.walkItems]
      refine .cons doneClosed (descends.walk item time affordable) ?_
      intro later first laterAffordable closed
      refine descends.walkItems (done ++ [first]) ?_ items later
        laterAffordable
      intro other member
      rcases List.mem_append.mp member with before | last
      · exact doneClosed other before
      · rw [List.mem_singleton.mp last]
        exact closed

end

/-- With room for so many nested expansions, a symbol is derived as it is
rewritten below that bound. -/
theorem descends_descend {produce : Produce σ} (filled : Filled grammar)
    (follows : Follows grammar produce word choices)
    (limits : DerivationLimits) (room : Nat) :
    Descends grammar word choices limits.maxExpansions room
      (descend grammar.isNonTerminal produce limits room) := by
  induction room with
  | zero =>
      intro time value affordable names
      obtain ⟨alternatives, production, opened, _, _⟩ :=
        filled.expand names (word time)
      rw [descend]
      exact .broken (.refl affordable _) opened (.inl (Nat.zero_le _))
  | succ room induction =>
      intro time value affordable names
      obtain ⟨alternatives, production, opened, chosen, expanded⟩ :=
        filled.expand names (word time)
      rw [descend]
      rcases Nat.lt_or_ge time limits.maxExpansions with left | full
      · have produced := follows time (.atom value)
        rw [expanded] at produced
        rw [run_bind_ok (run_countExpansion_ok left _),
          run_bind_ok (run_choose produced)]
        have step := rewrite?_eq_some_iff.mpr
          ⟨_, production, opened, chosen, rfl, rfl⟩
        exact .ofProduction step (induction.walk production (time + 1) left)
      · rw [run_bind_error (run_countExpansion_error full _)]
        exact .broken (.refl affordable _) opened (.inr full)

end Simulation

/-! ### Guided derivations -/

/-- After a number of reads the next production is selected by the gene of the
cyclic word at that number. -/
theorem run_produceGuided (symbols : SymbolTable) {genes : Chromosome}
    {cursor : Cursor} (fresh : Cursor.ofGenes? genes = some cursor)
    (time : Nat) (nonTerminal : Expression) :
    (produceGuided symbols nonTerminal).run (cursor.readMany time).2 =
      (symbols.expand nonTerminal (genes.cyclic time),
        (cursor.readMany (time + 1)).2) :=
  calc (produceGuided symbols nonTerminal).run (cursor.readMany time).2
      = (symbols.expand nonTerminal (cursor.readMany time).2.read.1,
          (cursor.readMany time).2.read.2) := rfl
    _ = (symbols.expand nonTerminal (genes.cyclic time),
          (cursor.readMany (time + 1)).2) := by
        rw [Cursor.read_readMany fresh, Cursor.readMany_succ_snd]

/-- The genes of a cursor are those of the cyclic word, in order. -/
theorem follows_produceGuided (grammar : Grammar) {genes : Chromosome}
    {cursor : Cursor} (fresh : Cursor.ofGenes? genes = some cursor) :
    Follows grammar (produceGuided grammar.symbols) genes.cyclic
      fun count => (cursor.readMany count).2 :=
  run_produceGuided grammar.symbols fresh

theorem derive_matches {grammar : Grammar} (filled : Filled grammar)
    (limits : DerivationLimits) {genes : Chromosome} {cursor : Cursor}
    (fresh : Cursor.ofGenes? genes = some cursor) :
    Matches grammar genes.cyclic (fun count => (cursor.readMany count).2)
      limits.maxExpansions limits.depth 0 (.symbol grammar.startName)
      ((derive grammar.isNonTerminal (produceGuided grammar.symbols) limits
        (.symbol grammar.startName)).run ⟨0, cursor⟩) :=
  (descends_descend filled (follows_produceGuided grammar fresh) limits
    limits.depth).walk _ 0 (Nat.zero_le _)

/-- A guided derivation ends as the rewriting does, or breaks a limit when the
rewriting does not end. -/
theorem runGuided_cases {grammar : Grammar} (filled : Filled grammar)
    (limits : DerivationLimits) {genes : Chromosome} {cursor : Cursor}
    (fresh : Cursor.ofGenes? genes = some cursor) :
    (∃ count tree, Ends grammar limits genes count tree ∧
      runGuided grammar.symbols limits cursor =
        (.ok tree, (cursor.readMany count).2)) ∨
    ((∀ count tree, ¬ Ends grammar limits genes count tree) ∧
      ∃ count depth, runGuided grammar.symbols limits cursor =
        (.error (.recursionLimit depth), (cursor.readMany count).2)) := by
  have matched := derive_matches filled limits fresh
  generalize outcome : (derive grammar.isNonTerminal
    (produceGuided grammar.symbols) limits
    (.symbol grammar.startName)).run ⟨0, cursor⟩ = result at matched
  have ran : runGuided grammar.symbols limits cursor =
      (result.1, result.2.choices) := by
    rw [← outcome]
    rfl
  cases matched with
  | @finished count paths last reached closed =>
      refine .inl ⟨count, last, ⟨closed, paths, reached⟩, ?_⟩
      rw [ran, Nat.zero_add]
      rfl
  | @broken count depth paths last site reached opened exceeded =>
      rw [Nat.zero_add] at exceeded ran
      exact .inr ⟨fun _ _ => not_ends_of_broken reached.rewritten opened
        exceeded, count, depth, ran⟩

/-- A guided derivation of a chromosome yields what leftmost rewriting ends
with, after as many reads as there are rewrites, and the fallback if the
rewriting goes on forever or breaks a limit. -/
theorem guided_eq_leftmost_rewriting (grammar : Grammar)
    (filled : Filled grammar) (limits : DerivationLimits)
    (genes : Chromosome) (nonempty : genes ≠ []) :
    (∀ count tree, Ends grammar limits genes count tree →
      guided grammar.symbols limits genes = .ok tree.asList ∧
        ∃ cursor, Cursor.ofGenes? genes = some cursor ∧
          (runGuided grammar.symbols limits cursor).2 =
            (cursor.readMany count).2 ∧
          (runGuided grammar.symbols limits cursor).2.consumed = count) ∧
    ((∀ count tree, ¬ Ends grammar limits genes count tree) →
      guided grammar.symbols limits genes = .ok fallback) := by
  have fresh : Cursor.ofGenes? genes = some ⟨genes, nonempty, 0, 0⟩ :=
    dif_pos nonempty
  rcases runGuided_cases filled limits fresh with
    ⟨count, tree, ends, ran⟩ | ⟨endless, count, depth, ran⟩
  · constructor
    · intro otherCount other otherEnds
      obtain ⟨rfl, rfl⟩ := otherEnds.unique ends
      refine ⟨?_, _, fresh, ?_, ?_⟩
      · simp only [guided, fresh, ran, settle]
      · rw [ran]
      · rw [ran, Cursor.consumed_readMany, Nat.zero_add]
    · intro endless
      exact absurd ends (endless count tree)
  · constructor
    · intro otherCount other otherEnds
      exact absurd otherEnds (endless otherCount other)
    · intro _
      simp only [guided, fresh, ran, settle]

/-- Calls of two operations on digits, or a digit. -/
def nestedCalls : Grammar :=
  (Grammar.ofStart "exp")
    |>.withRule "exp"
      [.list [.symbol "op", .symbol "exp", .symbol "exp"], .symbol "var"]
    |>.withRule "op" [.symbol "add", .symbol "subtract"]
    |>.withRule "var"
      ((List.range 10).map fun digit => .integer (Int64.ofNat digit))

/-- Ten rewrites, the deepest one within three others, under the limits that
just allow them. -/
theorem guided_nestedCalls :
    guided nestedCalls.symbols ⟨4, 10⟩ [0, 1, 1, 3, 0, 0, 1, 5, 1, 7] =
      .ok (.list [.symbol "subtract", .integer 3,
        .list [.symbol "add", .integer 5, .integer 7]]) := by
  have filled : Filled nestedCalls := filled_of_rules (by decide)
  have ends : Ends nestedCalls ⟨4, 10⟩ [0, 1, 1, 3, 0, 0, 1, 5, 1, 7] 10
      (.list [.symbol "subtract", .integer 3,
        .list [.symbol "add", .integer 5, .integer 7]]) := by
    refine ⟨rfl, [[], [0], [1], [1], [2], [2, 0], [2, 1], [2, 1], [2, 2],
      [2, 2]], rfl, ?_, ?_⟩ <;> decide
  exact ((guided_eq_leftmost_rewriting nestedCalls filled ⟨4, 10⟩ _
    (by decide)).1 10 _ ends).1

/-- One nested expansion less is too few. -/
example :
    guided nestedCalls.symbols ⟨3, 10⟩ [0, 1, 1, 3, 0, 0, 1, 5, 1, 7] =
      .ok fallback := by
  decide +kernel

end Derivation

end GrammaticalEvolution
