import GrammaticalEvolution.Proofs.DerivedTrees
import GrammaticalEvolution.Proofs.Draws
import GrammaticalEvolution.Proofs.ParallelDerivations
import GrammaticalEvolution.Random.Scripted

/-!
# Guided along a free derivation

A free derivation draws one selector for each expansion.  Written down, the
selectors are a chromosome, and a guided derivation along that chromosome, or
along any one that goes on after it, expands alike.  The two part only at their
ends: a broken limit is an error of the free derivation and is replaced in the
guided one.
-/

namespace GrammaticalEvolution

variable {ρ : Type} [WordSource ρ]

/-- Drawing one gene more is drawing once more at the end. -/
theorem Chromosome.run_random_succ {length : Nat} {source rest last : ρ}
    {genes : Chromosome} {gene : Gene}
    (before : (Chromosome.random length).run source = (genes, rest))
    (drawn : Random.drawGene.run rest = (gene, last)) :
    (Chromosome.random (length + 1)).run source =
      (genes ++ [gene], last) := by
  induction length generalizing source rest genes with
  | zero =>
      obtain ⟨rfl, rfl⟩ := Prod.mk.inj before
      rw [Chromosome.random, run_bind_of_run drawn]
      rfl
  | succ length induction =>
      generalize first : Random.drawGene.run source = outcome
      obtain ⟨head, middle⟩ := outcome
      generalize others : (Chromosome.random length).run middle = outcome
      obtain ⟨tail, rest'⟩ := outcome
      rw [Chromosome.random, run_bind_of_run first, run_bind_of_run others]
        at before
      obtain ⟨rfl, rfl⟩ := Prod.mk.inj before
      rw [Chromosome.random, run_bind_of_run first,
        run_bind_of_run (induction others drawn)]
      rfl

/-- Expand by a drawn selector and write the selector down. -/
def SymbolTable.recording (symbols : SymbolTable) :
    FreeSymbolTable (ρ × Chromosome) :=
  { symbols with
    expandFreely := fun nonTerminal (source, drawn) =>
      let (gene, rest) := Random.drawGene.run source
      (symbols.expand nonTerminal gene, rest, drawn ++ [gene]) }

theorem SymbolTable.run_drawing (symbols : SymbolTable) {source rest : ρ}
    {gene : Gene} (draws : Random.drawGene.run source = (gene, rest))
    (nonTerminal : Expression) :
    (symbols.drawing.expandFreely nonTerminal).run source =
      (symbols.expand nonTerminal gene, rest) := by
  simp only [drawing]
  rw [run_bind_of_run draws]
  rfl

theorem SymbolTable.run_recording (symbols : SymbolTable) {source rest : ρ}
    {gene : Gene} (draws : Random.drawGene.run source = (gene, rest))
    (nonTerminal : Expression) (drawn : Chromosome) :
    (symbols.recording.expandFreely nonTerminal).run (source, drawn) =
      (symbols.expand nonTerminal gene, rest, drawn ++ [gene]) := by
  simp only [recording, StateT.run] at draws ⊢
  rw [draws]

namespace Derivation

/-- The selectors that a free derivation draws, in the order in which they are
drawn. -/
def drawnFreely (symbols : SymbolTable) (limits : DerivationLimits)
    (source : ρ) : Chromosome :=
  (free symbols.recording limits symbols.start (source, [])).2.2

theorem free_of_run {τ : Type} (symbols : FreeSymbolTable τ)
    {limits : DerivationLimits} {start : Expression} {source rest : τ}
    {result : Except GrammarError Expression}
    (ran : run symbols.isNonTerminal symbols.expandFreely limits start source =
      (result, rest)) :
    free symbols limits start source =
      (result.map Expression.asList, rest) := by
  rw [free, ran]

section Recording

variable {genes : Chromosome}

/-- What is written down has been drawn from a source, gene by gene. -/
def DrawnFrom (source : ρ) (recorded : ρ × Chromosome) (rest : ρ) : Prop :=
  recorded.1 = rest ∧
    (Chromosome.random recorded.2.length).run source = (recorded.2, rest)

/-- Writing selectors down changes nothing else. -/
theorem producesAlongside_drawing (symbols : SymbolTable) (source : ρ) :
    ProducesAlongside (DrawnFrom source) (fun _ => False)
      symbols.recording.expandFreely symbols.drawing.expandFreely where
  stays _ _ impossible := impossible
  agrees := by
    rintro nonTerminal ⟨rest, drawn⟩ _ ⟨rfl, before⟩
    generalize outcome : Random.drawGene.run rest = drawing
    obtain ⟨gene, last⟩ := drawing
    refine .inr ⟨symbols.expand nonTerminal gene, (last, drawn ++ [gene]),
      last, ?_, ?_, rfl, ?_⟩
    · exact symbols.run_recording outcome nonTerminal drawn
    · exact symbols.run_drawing outcome nonTerminal
    · rw [List.length_append, List.length_singleton]
      exact Chromosome.run_random_succ before outcome

/-- A cursor has read as many genes as are written down. -/
def ReadAsDrawn (nonempty : genes ≠ []) (recorded : ρ × Chromosome)
    (cursor : Cursor) : Prop :=
  cursor = ((Cursor.start genes nonempty).readMany recorded.2.length).2

/-- As long as a chromosome starts with the selectors that are drawn, guidance
by it goes alongside. -/
theorem producesAlongside_guided (symbols : SymbolTable)
    (nonempty : genes ≠ []) :
    ProducesAlongside (ReadAsDrawn nonempty : ρ × Chromosome → Cursor → Prop)
      (fun recorded => ¬ recorded.2 <+: genes)
      symbols.recording.expandFreely (produceGuided symbols) where
  stays _ _ strayed longer := strayed ((List.prefix_append _ _).trans longer)
  agrees := by
    rintro nonTerminal ⟨rest, drawn⟩ _ rfl
    generalize outcome : Random.drawGene.run rest = drawing
    obtain ⟨gene, last⟩ := drawing
    have recorded := symbols.run_recording outcome nonTerminal drawn
    have read := run_produceGuided symbols (Cursor.ofGenes?_start nonempty)
      drawn.length nonTerminal
    by_cases along : drawn ++ [gene] <+: genes
    · right
      have next : genes.cyclic drawn.length = gene := by
        obtain ⟨more, rfl⟩ := along
        rw [Chromosome.cyclic_of_lt (by simp)]
        simp
      rw [next] at read
      refine ⟨_, _, _, recorded, read, ?_⟩
      rw [ReadAsDrawn, List.length_append, List.length_singleton]
    · left
      rw [recorded]
      exact along

/-- The selectors that are written down are those that the source yields one
after another, and the source is left behind them. -/
theorem free_recording (symbols : SymbolTable) (limits : DerivationLimits)
    (source : ρ) :
    free symbols.recording limits symbols.start (source, []) =
        ((free symbols.drawing limits symbols.start source).1,
          (free symbols.drawing limits symbols.start source).2,
          drawnFreely symbols limits source) ∧
      (Chromosome.random (drawnFreely symbols limits source).length).run
          source =
        (drawnFreely symbols limits source,
          (free symbols.drawing limits symbols.start source).2) := by
  have atStart : DrawnFrom source (source, []) source := ⟨rfl, rfl⟩
  rcases (producesAlongside_drawing symbols source).run symbols.isNonTerminal
      limits symbols.start atStart with
    impossible | ⟨result, ⟨last, drawn⟩, _, recorded, ran, rfl, random⟩
  · exact impossible.elim
  · have freeRecorded := free_of_run symbols.recording recorded
    rw [drawnFreely, freeRecorded, free_of_run symbols.drawing ran]
    exact ⟨rfl, random⟩

/-- Guided by chromosomes that start with the selectors drawn, a derivation
ends as the free one does, before it is settled. -/
theorem runGuided_of_drawn (symbols : SymbolTable) (limits : DerivationLimits)
    (source : ρ) (nonempty : genes ≠ [])
    (along : drawnFreely symbols limits source <+: genes) :
    ∃ result,
      (free symbols.drawing limits symbols.start source).1 =
        result.map Expression.asList ∧
      runGuided symbols limits (.start genes nonempty) =
        (result, ((Cursor.start genes nonempty).readMany
          (drawnFreely symbols limits source).length).2) := by
  have atStart : ReadAsDrawn nonempty (source, [])
      (Cursor.start genes nonempty) := rfl
  rcases (producesAlongside_guided symbols nonempty).run symbols.isNonTerminal
      limits symbols.start atStart with
    strayed | ⟨result, ⟨last, drawn⟩, _, recorded, guided, rfl⟩
  · exact absurd along strayed
  · have same := (free_recording symbols limits source).1
    rw [free_of_run symbols.recording recorded] at same
    obtain ⟨sameResult, sameRest⟩ := Prod.mk.inj same
    obtain ⟨-, sameDrawn⟩ := Prod.mk.inj sameRest
    rw [← sameDrawn]
    exact ⟨result, sameResult.symm, guided⟩

end Recording

/-- How a guided derivation ends where a free one has ended: alike, except that
it recovers from a broken limit. -/
structure EndsAlike (free guided : Except GrammarError Expression) : Prop where
  finished : ∀ tree, free = .ok tree → guided = .ok tree
  broken : ∀ depth, free = .error (.recursionLimit depth) →
    guided = .ok (.list [.integer 0])
  failed : ∀ error, (∀ depth, error ≠ .recursionLimit depth) →
    free = .error error → guided = .error error

theorem settle_error {error : GrammarError}
    (other : ∀ depth, error ≠ .recursionLimit depth) :
    settle (.error error) = .error error := by
  cases error with
  | recursionLimit depth => exact absurd rfl (other depth)
  | _ => rfl

theorem endsAlike_settle (result : Except GrammarError Expression) :
    EndsAlike (result.map Expression.asList) (settle result) where
  finished := by
    intro tree ended
    cases result with
    | ok expression =>
        cases ended
        rfl
    | error error => cases ended
  broken := by
    intro depth ended
    cases result with
    | ok expression => cases ended
    | error error =>
        cases ended
        rfl
  failed := by
    intro failure other ended
    cases result with
    | ok expression => cases ended
    | error error =>
        cases ended
        exact settle_error other

/-- A free derivation draws a finite sequence of selectors and nothing else.
Every chromosome that starts with it guides a derivation to the same end, by
reading just those selectors; but a broken limit, which fails the free
derivation, is recovered from. -/
theorem free_then_guided (symbols : SymbolTable) (limits : DerivationLimits)
    (source : ρ) :
    free symbols.recording limits symbols.start (source, []) =
        ((free symbols.drawing limits symbols.start source).1,
          (free symbols.drawing limits symbols.start source).2,
          drawnFreely symbols limits source) ∧
      (Chromosome.random (drawnFreely symbols limits source).length).run
          source =
        (drawnFreely symbols limits source,
          (free symbols.drawing limits symbols.start source).2) ∧
      ∀ (genes : Chromosome) (nonempty : genes ≠ []),
        drawnFreely symbols limits source <+: genes →
        EndsAlike (free symbols.drawing limits symbols.start source).1
          (guided symbols limits genes) ∧
        (lastCursor symbols limits genes nonempty).consumed =
          (drawnFreely symbols limits source).length := by
  obtain ⟨recorded, random⟩ := free_recording symbols limits source
  refine ⟨recorded, random, ?_⟩
  intro genes nonempty along
  obtain ⟨result, free, ran⟩ :=
    runGuided_of_drawn symbols limits source nonempty along
  constructor
  · rw [guided_start symbols limits nonempty, free, ran]
    exact endsAlike_settle result
  · rw [lastCursor, ran, Cursor.consumed_readMany_start]

/-- Eleven words, of which ten are drawn and a further gene follows. -/
theorem free_then_guided_nestedCalls :
    drawnFreely nestedCalls.symbols ⟨4, 10⟩
        (ScriptedWords.ofList
          ([0, 1, 1, 3, 0, 0, 1, 5, 1, 7, 8].map (· * 0x1000000))) =
      [0, 1, 1, 3, 0, 0, 1, 5, 1, 7] ∧
    guided nestedCalls.symbols ⟨4, 10⟩ [0, 1, 1, 3, 0, 0, 1, 5, 1, 7, 99] =
      .ok (.list [.symbol "subtract", .integer 3,
        .list [.symbol "add", .integer 5, .integer 7]]) := by
  have drawn : drawnFreely nestedCalls.symbols ⟨4, 10⟩
      (ScriptedWords.ofList
        ([0, 1, 1, 3, 0, 0, 1, 5, 1, 7, 8].map (· * 0x1000000))) =
      [0, 1, 1, 3, 0, 0, 1, 5, 1, 7] := by decide +kernel
  refine ⟨drawn, ?_⟩
  obtain ⟨-, -, along⟩ := free_then_guided nestedCalls.symbols ⟨4, 10⟩
    (ScriptedWords.ofList
      ([0, 1, 1, 3, 0, 0, 1, 5, 1, 7, 8].map (· * 0x1000000)))
  obtain ⟨alike, -⟩ := along [0, 1, 1, 3, 0, 0, 1, 5, 1, 7, 99] (by decide)
    (by rw [drawn]; decide)
  apply alike.finished
  decide +kernel

/-- The selector drawn for an expansion that fails counts too. -/
example :
    drawnFreely ((Grammar.ofStart "exp").withRule "exp" []).symbols ⟨4, 10⟩
      (ScriptedWords.ofList [0x5000000]) = [5] := by
  decide +kernel

end Derivation

end GrammaticalEvolution
