import GrammaticalEvolution.Population
import GrammaticalEvolution.Settings

/-!
# Evolution runs

A run advances a population generation by generation, up to the number in the
settings or until the best fitness reaches the target.  An observer hears of
the start and the completion of every step.  A step that fails ends the run.
-/

namespace GrammaticalEvolution

/-- What an observer hears: a step starts, or it is complete with the best and
the average fitness after it. -/
inductive ProgressEvent where
  | started (step : Nat)
  | completed (step : Nat) (best average : Float)

abbrev Observer := ProgressEvent → Journaled Unit

namespace Observer

def silent : Observer := fun _ => pure ()

/-- The part of the library that notes about progress come from. -/
def target : String := "gacore::engines::generation::progress"

def noting : Observer
  | .started step => .note .debug target s!"Generation {step + 1} starting..."
  | .completed step best average =>
      let bestText := Decimal.writePlaces 4 best
      let averageText := Decimal.writePlaces 4 average
      .note .info target
        (s!"Generation {step + 1} complete. " ++
          s!"Best fitness: {bestText}, Avg fitness: {averageText}")

end Observer

/-- Why an evolution cannot be set up or run. -/
inductive EvolutionError where
  | settings (error : SettingsError)
  | population (error : PopulationError)

def EvolutionError.message : EvolutionError → String
  | .settings error => error.message
  | .population error => error.message

/-- A population with the settings it is run by. -/
structure Evolution (ρ φ : Type) where
  settings : EvolutionSettings
  population : Population ρ φ

/-- What a complete run reports. -/
structure RunResult (φ : Type) where
  generations : Nat
  bestChromosome : Chromosome
  bestFitness : Float
  bestPhenotype : Option φ
  reachedTarget : Bool

/-- How a run ended: its result, the events in order, and the population at the
end of it. -/
structure Run (ρ φ : Type) where
  result : Except PopulationError (RunResult φ)
  events : List ProgressEvent
  population : Population ρ φ

namespace Evolution

variable {ρ φ : Type}

def ofPopulation (settings : EvolutionSettings) (population : Population ρ φ) :
    Except SettingsError (Evolution ρ φ) := do
  settings.validate
  return ⟨settings, population⟩

/-- Whether a target is set and the best fitness reaches it. -/
def targetReached (settings : EvolutionSettings)
    (population : Population ρ φ) : Bool :=
  match settings.targetFitness with
  | some target => decide (target ≤ population.best.fitness)
  | none => false

/-- What is reported about a population after a run. -/
def resultOf (settings : EvolutionSettings) (population : Population ρ φ) :
    RunResult φ :=
  let best := population.best
  { generations := population.generation
    bestChromosome := best.chromosome
    bestFitness := best.fitness
    bestPhenotype := best.phenotype
    reachedTarget := targetReached settings population }

/-- The part of the library that notes about runs come from. -/
def target : String := "gacore::engines::generation::evolution_engine"

variable [WordSource ρ]

/-- Make a population by the settings and prepare to run it. -/
def create (settings : EvolutionSettings) (fitness : FitnessFunction φ)
    (source : ρ) : Journaled (Except EvolutionError (Evolution ρ φ)) :=
  match settings.validate with
  | .error error => pure (.error (.settings error))
  | .ok () => do
      let population ← Population.create settings.populationSize
        settings.chromosomeLength fitness source []
      return (population.mapError EvolutionError.population).map
        fun population => ⟨settings, population⟩

/-- The steps of a run from a step on, with that many left. -/
def steps (settings : EvolutionSettings) (observer : Observer) :
    (remaining step : Nat) → Population ρ φ → Journaled (Run ρ φ)
  | 0, _, population =>
      pure ⟨.ok (resultOf settings population), [], population⟩
  | remaining + 1, step, population =>
      if targetReached settings population then do
        .note .debug target s!"Target fitness reached after {step} generations"
        return ⟨.ok (resultOf settings population), [], population⟩
      else do
        observer (.started step)
        let (result, next) ← population.advance settings.crossoverRate
          settings.mutationRate
        match result with
        | .error error => return ⟨.error error, [.started step], next⟩
        | .ok () =>
            let statistics := next.statistics
            let complete := ProgressEvent.completed step statistics.topFitness
              statistics.averageFitness
            observer complete
            let rest ← steps settings observer remaining (step + 1) next
            return ⟨rest.result, .started step :: complete :: rest.events,
              rest.population⟩

def run (evolution : Evolution ρ φ) (observer : Observer) :
    Journaled (Run ρ φ) :=
  steps evolution.settings observer evolution.settings.generations 0
    evolution.population

end Evolution

end GrammaticalEvolution
