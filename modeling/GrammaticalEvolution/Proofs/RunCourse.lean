import GrammaticalEvolution.Proofs.EvolutionRun
import GrammaticalEvolution.Proofs.FloatOrder
import GrammaticalEvolution.Proofs.Population.Statistics

/-!
# The course of a run

A run takes steps that succeed, each from a population that has not reached the
target.  `Halts` says how many of them there are when it ends well: all that
are asked for, unless the population after the last one has reached the target.
`Breaks` says that the next step fails.  Either way the events tell of every
step once and in order, and the observer hears just these events, whatever it
notes about them.
-/

namespace GrammaticalEvolution

variable {ρ φ : Type}

/-! ### What is reported -/

namespace Evolution

/-- The events of steps from a step on, by the populations that they led to. -/
def reports : (step : Nat) → List (Population ρ φ) → List ProgressEvent
  | _, [] => []
  | step, population :: later =>
      .started step ::
        .completed step population.best.fitness
          population.statistics.averageFitness ::
        reports (step + 1) later

/-- A part of what a run notes: what the observer notes when it hears of an
event, or what is noted whoever observes. -/
inductive Note where
  | heard (event : ProgressEvent)
  | other (journal : Journal)

namespace Note

def event? : Note → Option ProgressEvent
  | heard event => some event
  | other _ => none

def journal (observer : Observer) : Note → Journal
  | heard event => (observer event).journal
  | other journal => journal

end Note

/-- What a sequence of notes comes to with an observer. -/
def written (observer : Observer) (notes : List Note) : Journal :=
  notes.foldr (fun note rest => note.journal observer ++ rest) #[]

theorem written_append (observer : Observer) (first second : List Note) :
    written observer (first ++ second) =
      written observer first ++ written observer second := by
  induction first with
  | nil => exact Array.empty_append.symm
  | cons note first induction =>
      change note.journal observer ++ written observer (first ++ second) =
        note.journal observer ++ written observer first ++
          written observer second
      rw [induction, Array.append_assoc]

/-- Whoever observes the computation, it gives the value and writes what the
notes come to. -/
def Overheard {α : Type} (computation : Observer → Journaled α) (value : α)
    (notes : List Note) : Prop :=
  ∀ observer, computation observer = ⟨value, written observer notes⟩

namespace Overheard

variable {α β : Type}

theorem value_eq {computation : Observer → Journaled α} {value : α}
    {notes : List Note} (overheard : Overheard computation value notes)
    (observer : Observer) : (computation observer).value = value :=
  congrArg Journaled.value (overheard observer)

theorem pure (value : α) : Overheard (fun _ => Pure.pure value) value [] :=
  fun _ => rfl

theorem heard (event : ProgressEvent) :
    Overheard (fun observer => observer event) () [.heard event] :=
  fun _ => congrArg (Journaled.mk ()) Array.append_empty.symm

theorem other (computation : Journaled α) :
    Overheard (fun _ => computation) computation.value
      [.other computation.journal] :=
  fun _ => congrArg (Journaled.mk computation.value) Array.append_empty.symm

theorem bind {first : Observer → Journaled α} {value : α} {notes : List Note}
    {next : Observer → α → Journaled β} {result : β} {others : List Note}
    (before : Overheard first value notes)
    (after : Overheard (fun observer => next observer value) result others) :
    Overheard (fun observer => first observer >>= next observer) result
      (notes ++ others) := by
  intro observer
  have onward : next observer value = ⟨result, written observer others⟩ :=
    after observer
  calc
    first observer >>= next observer
        = ⟨value, written observer notes⟩ >>= next observer := by rw [before]
    _ = ⟨(next observer value).value,
          written observer notes ++ (next observer value).journal⟩ := rfl
    _ = ⟨result, written observer (notes ++ others)⟩ := by
        rw [onward, written_append]

end Overheard

end Evolution

/-- What a run reports when it ends with a population. -/
structure RunResult.Describes (result : RunResult φ)
    (settings : EvolutionSettings) (population : Population ρ φ) : Prop where
  generations : result.generations = population.generation
  chromosome : result.bestChromosome = population.best.chromosome
  fitness : result.bestFitness = population.best.fitness
  phenotype : result.bestPhenotype = population.best.phenotype
  reached : result.reachedTarget = true ↔
    ∃ target, settings.targetFitness = some target ∧
      target ≤ result.bestFitness
  numbers : result.reachedTarget = true → result.bestFitness.isNaN = false ∧
    ∀ target, settings.targetFitness = some target → target.isNaN = false

namespace Evolution

theorem targetReached_iff {settings : EvolutionSettings}
    {population : Population ρ φ} :
    targetReached settings population = true ↔
      ∃ target, settings.targetFitness = some target ∧
        target ≤ population.best.fitness := by
  unfold targetReached
  cases settings.targetFitness with
  | none => simp
  | some target => simp

theorem describes_resultOf (settings : EvolutionSettings)
    (population : Population ρ φ) :
    (resultOf settings population).Describes settings population where
  generations := rfl
  chromosome := rfl
  fitness := rfl
  phenotype := rfl
  reached := targetReached_iff
  numbers reached := by
    obtain ⟨target, isSet, attained⟩ := targetReached_iff.mp reached
    obtain ⟨targetNumber, bestNumber⟩ :=
      FloatOrder.isNaN_eq_false_of_le attained
    refine ⟨bestNumber, fun other alsoSet => ?_⟩
    obtain rfl := Option.some.inj (isSet.symm.trans alsoSet)
    exact targetNumber

variable [WordSource ρ]

/-- The observer hears of the events of a run in order, and the run does not
depend on it. -/
theorem overheard_steps (settings : EvolutionSettings) (remaining step : Nat)
    (population : Population ρ φ) :
    ∃ (run : Run ρ φ) (notes : List Note),
      Overheard (fun observer =>
        steps settings observer remaining step population) run notes ∧
      notes.filterMap Note.event? = run.events := by
  induction remaining generalizing step population with
  | zero => exact ⟨_, _, .pure _, rfl⟩
  | succ remaining induction =>
      unfold steps
      by_cases target : targetReached settings population = true
      · simp only [if_pos target]
        exact ⟨_, _, .bind (.other _) (.pure _), rfl⟩
      · simp only [if_neg target]
        cases advanced : population.advance settings.crossoverRate
            settings.mutationRate with
        | mk outcome journal =>
            obtain ⟨result, next⟩ := outcome
            cases result with
            | error error =>
                exact ⟨_, _, .bind (.heard _) (.bind (.other _) (.pure _)),
                  rfl⟩
            | ok _ =>
                obtain ⟨rest, notes, overheard, events⟩ :=
                  induction (step + 1) next
                refine ⟨_, _, .bind (.heard _) (.bind (.other _)
                  (.bind (.heard _) (.bind overheard (.pure _)))), ?_⟩
                rw [List.append_nil, ← events]
                rfl

/-! ### Steps that succeed -/

/-- A step from a population that has not reached the target succeeds. -/
structure Step (settings : EvolutionSettings)
    (before after : Population ρ φ) : Prop where
  short : targetReached settings before = false
  advanced : (before.advance settings.crossoverRate
    settings.mutationRate).value = (.ok (), after)

/-- Steps that succeed, with the population after each of them. -/
inductive Passes (settings : EvolutionSettings) :
    Population ρ φ → List (Population ρ φ) → Population ρ φ → Prop where
  | none (population : Population ρ φ) :
      Passes settings population [] population
  | step {start next last : Population ρ φ} {later : List (Population ρ φ)}
      (first : Step settings start next)
      (others : Passes settings next later last) :
      Passes settings start (next :: later) last

/-- The steps that a run takes if it ends well. -/
structure Halts (settings : EvolutionSettings) (limit : Nat)
    (start : Population ρ φ) (later : List (Population ρ φ))
    (last : Population ρ φ) : Prop where
  passes : Passes settings start later last
  within : later.length ≤ limit
  reached : later.length < limit → targetReached settings last = true

/-- The steps that succeed in a run before one fails with an error. -/
structure Breaks (settings : EvolutionSettings) (limit : Nat)
    (start : Population ρ φ) (later : List (Population ρ φ))
    (last next : Population ρ φ) (error : PopulationError) : Prop where
  passes : Passes settings start later last
  within : later.length < limit
  short : targetReached settings last = false
  failed : (last.advance settings.crossoverRate settings.mutationRate).value =
    (.error error, next)

variable {settings : EvolutionSettings}

namespace Step

variable {before after : Population ρ φ}

theorem generation (step : Step settings before after) :
    after.generation = before.generation + 1 := by
  obtain ⟨individuals, source, rfl⟩ :=
    Population.install_of_advance step.advanced
  rfl

theorem topFitness (step : Step settings before after) :
    after.statistics.topFitness = after.best.fitness := by
  obtain ⟨individuals, source, rfl⟩ :=
    Population.install_of_advance step.advanced
  exact before.topFitness_install individuals source

end Step

theorem Passes.generation {start last : Population ρ φ}
    {later : List (Population ρ φ)}
    (passes : Passes settings start later last) :
    last.generation = start.generation + later.length := by
  induction passes with
  | none => rfl
  | step first _ induction =>
      rw [induction, first.generation, List.length_cons]
      omega

/-! ### From the steps of a run to its course -/

namespace Evolves

variable {remaining step : Nat} {population : Population ρ φ} {run : Run ρ φ}

theorem halts (evolved : Evolves settings remaining step population run)
    {result : RunResult φ} (done : run.result = .ok result) :
    ∃ later, Halts settings remaining population later run.population ∧
      run.events = reports step later := by
  induction evolved with
  | exhausted step population =>
      exact ⟨[], ⟨.none population, Nat.le_refl 0, nofun⟩, rfl⟩
  | reached target =>
      exact ⟨[], ⟨.none _, Nat.zero_le _, fun _ => target⟩, rfl⟩
  | failed => exact nomatch done
  | @stepped remaining step population next rest short advanced _ induction =>
      have first : Step settings population next := ⟨short, advanced⟩
      obtain ⟨later, halts, events⟩ := induction done
      refine ⟨next :: later, ⟨.step first halts.passes,
        Nat.succ_le_succ halts.within, fun fewer => ?_⟩, ?_⟩
      · exact halts.reached (Nat.lt_of_succ_lt_succ fewer)
      · rw [reports, ← first.topFitness, events]

theorem breaks (evolved : Evolves settings remaining step population run)
    {error : PopulationError} (failed : run.result = .error error) :
    ∃ later last,
      Breaks settings remaining population later last run.population error ∧
      run.events = reports step later ++ [.started (step + later.length)] := by
  induction evolved with
  | exhausted => exact nomatch failed
  | reached => exact nomatch failed
  | @failed remaining step population next _ short advanced =>
      obtain rfl := Except.error.inj failed
      exact ⟨[], population,
        ⟨.none population, Nat.succ_pos remaining, short, advanced⟩, rfl⟩
  | @stepped remaining step population next rest short advanced _ induction =>
      have first : Step settings population next := ⟨short, advanced⟩
      obtain ⟨later, last, breaks, events⟩ := induction failed
      refine ⟨next :: later, last, ⟨.step first breaks.passes,
        Nat.succ_lt_succ breaks.within, breaks.short, breaks.failed⟩, ?_⟩
      have number : step + (next :: later).length =
          step + 1 + later.length := by
        rw [List.length_cons]
        omega
      rw [reports, number, ← first.topFitness, events]
      rfl

end Evolves

/-- A run takes steps until all are taken or the target is reached, and the
observer hears of the start and the completion of each step once, the latter
with the fitness of the best individual after it.  If the run ends well, it
describes the population that the steps led to.  If a step fails, the observer
has heard of its start last, and the population is the one before that step
except for its source. -/
theorem run_stops_and_reports (evolution : Evolution ρ φ) :
    ∃ (run : Run ρ φ) (notes : List Note),
      Overheard evolution.run run notes ∧
      notes.filterMap Note.event? = run.events ∧
      (∀ result, run.result = .ok result → ∃ later,
        Halts evolution.settings evolution.settings.generations
          evolution.population later run.population ∧
        run.events = reports 0 later ∧
        run.population.generation =
          evolution.population.generation + later.length ∧
        result.Describes evolution.settings run.population) ∧
      ∀ error, run.result = .error error → ∃ later last,
        Breaks evolution.settings evolution.settings.generations
          evolution.population later last run.population error ∧
        run.events = reports 0 later ++ [.started later.length] ∧
        ∃ source, run.population = { last with source := source } := by
  obtain ⟨run, notes, overheard, heard⟩ := overheard_steps evolution.settings
    evolution.settings.generations 0 evolution.population
  have evolved : Evolves evolution.settings evolution.settings.generations 0
      evolution.population run := by
    rw [← overheard.value_eq .silent]
    exact evolution.evolves_run .silent
  refine ⟨run, notes, overheard, heard, ?_, ?_⟩
  · intro result done
    obtain ⟨later, halts, events⟩ := evolved.halts done
    refine ⟨later, halts, events, halts.passes.generation, ?_⟩
    rw [evolved.result_eq done]
    exact describes_resultOf _ _
  · intro error failed
    obtain ⟨later, last, breaks, events⟩ := evolved.breaks failed
    rw [Nat.zero_add] at events
    exact ⟨later, last, breaks, events,
      Population.source_of_advance breaks.failed⟩

/-! ### Chromosomes that climb -/

def geneTotal (genes : Chromosome) : Gene :=
  genes.foldl (fun total gene => total + gene) 0

/-- A chromosome is as fit as its genes are large. -/
def totalFitness : FitnessFunction Chromosome :=
  fun genes => pure ⟨(geneTotal genes).toUInt64.toFloat, [genes]⟩

def climberSeeds : List Chromosome := [[0, 2], [1, 0], [2, 1], [3, 5]]

/-- Four chromosomes that are to climb to a target. -/
def climbers (generations : Nat) (recombination : Recombination) :
    Evolution ScriptedWords Chromosome :=
  ⟨⟨4, 2, generations, 0.5, 0.5, some 200.0, none⟩,
    .ofIndividuals 4 ⟨2, totalFitness, recombination⟩
      (climberSeeds.map fun genes =>
        (Individual.ofChromosome totalFitness genes).value)
      (.ofList [0x9E3779B97F4A7C15, 0xBF58476D1CE4E5B9, 7])⟩

/-- Children of the right length only while the parents are small. -/
def swapSmall (first second : Chromosome) : Chromosome × Chromosome :=
  if geneTotal first < 100 then (second, first) else (first ++ second, second)

/-- Two steps of five lead to the target.  With the other recombination the
second step fails. -/
theorem climbers_stop_and_report :
    (∃ later : List (Population ScriptedWords Chromosome),
      later.length = 2 ∧
      ((climbers 5 .singlePoint).run .silent).value.events =
        reports 0 later ∧
      targetReached (climbers 5 .singlePoint).settings
        ((climbers 5 .singlePoint).run .silent).value.population = true) ∧
    ∃ later : List (Population ScriptedWords Chromosome),
      later.length = 1 ∧
      ((climbers 5 (.custom swapSmall)).run .silent).value.events =
        reports 0 later ++ [.started 1] := by
  constructor
  · obtain ⟨run, notes, overheard, _, halted, _⟩ :=
      run_stops_and_reports (climbers 5 .singlePoint)
    have succeeds : ((climbers 5 .singlePoint).run
        .silent).value.result.toBool = true := by decide +kernel
    have generation : ((climbers 5 .singlePoint).run
        .silent).value.population.generation = 2 := by decide +kernel
    rw [overheard.value_eq] at succeeds generation ⊢
    cases done : run.result with
    | error error => exact nomatch done ▸ succeeds
    | ok result =>
        obtain ⟨later, halts, events, grown, _⟩ := halted result done
        have count : later.length = 2 := by
          rw [grown] at generation
          exact (Nat.zero_add _).symm.trans generation
        exact ⟨later, count, events, halts.reached (by rw [count]; decide)⟩
  · obtain ⟨run, notes, overheard, _, _, broken⟩ :=
      run_stops_and_reports (climbers 5 (.custom swapSmall))
    have fails : ((climbers 5 (.custom swapSmall)).run
        .silent).value.result.toBool = false := by decide +kernel
    have generation : ((climbers 5 (.custom swapSmall)).run
        .silent).value.population.generation = 1 := by decide +kernel
    rw [overheard.value_eq] at fails generation ⊢
    cases failed : run.result with
    | ok result => exact nomatch failed ▸ fails
    | error error =>
        obtain ⟨later, last, breaks, events, source, kept⟩ :=
          broken error failed
        have count : later.length = 1 := by
          rw [kept] at generation
          exact (Nat.zero_add _).symm.trans
            (breaks.passes.generation.symm.trans generation)
        rw [count] at events
        exact ⟨later, count, events⟩

end Evolution

end GrammaticalEvolution
