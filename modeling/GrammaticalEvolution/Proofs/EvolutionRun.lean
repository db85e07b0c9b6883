import GrammaticalEvolution.Demonstration
import GrammaticalEvolution.Proofs.Population.Memo

/-!
# Evolution runs and their results

`Evolves` says what a run can do from a step on, without its observer: the
steps are used up, the target is reached, or a step is taken that fails or
succeeds.  A run only ever advances its population, so whatever holds of all
populations that can be reached holds at the end of it.
-/

namespace GrammaticalEvolution

variable {ρ φ : Type} [WordSource ρ]

namespace Evolution

/-- How the rest of a run goes with that many steps left. -/
inductive Evolves (settings : EvolutionSettings) :
    (remaining step : Nat) → Population ρ φ → Run ρ φ → Prop where
  | exhausted (step : Nat) (population : Population ρ φ) :
      Evolves settings 0 step population
        ⟨.ok (resultOf settings population), [], population⟩
  | reached {remaining step : Nat} {population : Population ρ φ}
      (target : targetReached settings population = true) :
      Evolves settings (remaining + 1) step population
        ⟨.ok (resultOf settings population), [], population⟩
  | failed {remaining step : Nat} {population next : Population ρ φ}
      {error : PopulationError}
      (short : targetReached settings population = false)
      (advanced : (population.advance settings.crossoverRate
        settings.mutationRate).value = (.error error, next)) :
      Evolves settings (remaining + 1) step population
        ⟨.error error, [.started step], next⟩
  | stepped {remaining step : Nat} {population next : Population ρ φ}
      {rest : Run ρ φ}
      (short : targetReached settings population = false)
      (advanced : (population.advance settings.crossoverRate
        settings.mutationRate).value = (.ok (), next))
      (later : Evolves settings remaining (step + 1) next rest) :
      Evolves settings (remaining + 1) step population
        ⟨rest.result,
          .started step ::
            .completed step next.statistics.topFitness
              next.statistics.averageFitness :: rest.events,
          rest.population⟩

theorem evolves (settings : EvolutionSettings) (observer : Observer)
    (remaining step : Nat) (population : Population ρ φ) :
    Evolves settings remaining step population
      (steps settings observer remaining step population).value := by
  induction remaining generalizing step population with
  | zero => exact .exhausted step population
  | succ remaining induction =>
      unfold steps
      by_cases target : targetReached settings population = true
      · rw [if_pos target]
        exact .reached target
      · rw [if_neg target]
        simp only [Journaled.value_bind]
        have short := Bool.eq_false_iff.mpr target
        generalize advanced : (population.advance settings.crossoverRate
          settings.mutationRate).value = outcome
        obtain ⟨result, next⟩ := outcome
        cases result with
        | error error => exact .failed short advanced
        | ok _ => exact .stepped short advanced (induction (step + 1) next)

theorem evolves_run (evolution : Evolution ρ φ) (observer : Observer) :
    Evolves evolution.settings evolution.settings.generations 0
      evolution.population (evolution.run observer).value :=
  evolves _ _ _ _ _

namespace Evolves

variable {settings : EvolutionSettings} {remaining step : Nat}
  {population : Population ρ φ} {run : Run ρ φ}

theorem reachable {fitness : FitnessFunction φ}
    (evolved : Evolves settings remaining step population run)
    (start : population.Reachable fitness) :
    run.population.Reachable fitness := by
  induction evolved with
  | exhausted => exact start
  | reached => exact start
  | failed _ advanced => exact start.advanced advanced
  | stepped _ advanced _ induction => exact induction (start.advanced advanced)

/-- The result of a run speaks about the population at its end. -/
theorem result_eq (evolved : Evolves settings remaining step population run)
    {result : RunResult φ} (done : run.result = .ok result) :
    result = resultOf settings run.population := by
  induction evolved with
  | exhausted => exact (Except.ok.inj done).symm
  | reached => exact (Except.ok.inj done).symm
  | failed => exact nomatch done
  | stepped _ _ _ induction => exact induction done

end Evolves

/-- An evolution as its callers get it: made by settings or around a
population, with calls on its population and runs in between. -/
inductive Reachable (fitness : FitnessFunction φ) : Evolution ρ φ → Prop where
  | created {settings : EvolutionSettings} {source : ρ}
      {evolution : Evolution ρ φ}
      (made : (create settings fitness source).value = .ok evolution) :
      Reachable fitness evolution
  | wrapped {settings : EvolutionSettings} {population : Population ρ φ}
      {evolution : Evolution ρ φ} (reachable : population.Reachable fitness)
      (made : ofPopulation settings population = .ok evolution) :
      Reachable fitness evolution
  | called {evolution : Evolution ρ φ} (call : Population.Call φ)
      (before : Reachable fitness evolution) :
      Reachable fitness
        { evolution with population := evolution.population.perform call }
  | ran {evolution : Evolution ρ φ} (observer : Observer)
      (before : Reachable fitness evolution) :
      Reachable fitness
        { evolution with
          population := (evolution.run observer).value.population }

/-- An evolution that was made has valid settings and a population made by
them. -/
theorem create_eq_ok {settings : EvolutionSettings}
    {fitness : FitnessFunction φ} {source : ρ} {evolution : Evolution ρ φ}
    (made : (create settings fitness source).value = .ok evolution) :
    settings.validate = .ok () ∧ evolution.settings = settings ∧
      (Population.create settings.populationSize settings.chromosomeLength
        fitness source []).value = .ok evolution.population := by
  unfold create at made
  cases valid : settings.validate with
  | error error => exact nomatch valid ▸ made
  | ok _ =>
      simp only [valid, Journaled.value_bind] at made
      cases start : (Population.create settings.populationSize
          settings.chromosomeLength fitness source []).value with
      | error error => exact nomatch start ▸ made
      | ok population =>
          rw [start] at made
          cases made
          exact ⟨rfl, rfl, rfl⟩

theorem Reachable.population {fitness : FitnessFunction φ}
    {evolution : Evolution ρ φ} (reachable : evolution.Reachable fitness) :
    evolution.population.Reachable fitness := by
  induction reachable with
  | created made => exact .created (create_eq_ok made).2.2
  | @wrapped settings population evolution reachable made =>
      unfold ofPopulation at made
      cases valid : settings.validate with
      | error error => exact nomatch valid ▸ made
      | ok _ =>
          rw [valid] at made
          cases made
          exact reachable
  | called call before induction => exact induction.called call
  | ran observer before induction =>
      exact (evolves _ observer _ _ _).reachable induction

/-- No fitness and no phenotype is ever stale: not in a population, whatever
is called on it, and not in the result of a run.  What a run by meaning reports
as its best phenotype is what its best chromosome stands for. -/
theorem assessments_never_stale :
    (∀ (fitness : FitnessFunction φ) (population : Population ρ φ),
      population.Reachable fitness →
      ∀ individual ∈ population.individuals ++ population.previous,
        individual.Fresh fitness) ∧
    ∀ (mapper : SemanticMapper) (evolution : Evolution ρ Expression)
      (observer : Observer), evolution.Reachable mapper.fitness →
      ∀ result, (evolution.run observer).value.result = .ok result →
        (∀ expression, result.bestPhenotype = some expression ↔
          mapper.decode result.bestChromosome = .ok expression) ∧
        (∀ expression, result.bestPhenotype = some expression →
          result.bestFitness =
            mapper.score expression (mapper.evaluate expression)) ∧
        ((∀ expression,
            mapper.decode result.bestChromosome ≠ .ok expression) →
          result.bestPhenotype = none ∧
            result.bestFitness = mapper.failureFitness) := by
  constructor
  · intro fitness population reachable
    exact reachable.fresh
  · intro mapper evolution observer reachable result done
    have evolved := evolves evolution.settings observer
      evolution.settings.generations 0 evolution.population
    have ended := evolved.reachable reachable.population
    have fresh := ended.fresh _ (List.mem_append_left _ ended.best_mem)
    obtain rfl := evolved.result_eq done
    exact fresh.meaning

/-! ### Two steps over digits -/

def digitSeeds : List Chromosome := [[2, 4], [2, 3], [1, 0], [2, 7]]

/-- Four chromosomes that each stand for a digit. -/
def digits : Evolution ScriptedWords Expression :=
  let mapper := Demonstration.mapper .standard
  ⟨⟨4, 2, 2, 0.5, 0.5, none, none⟩,
    .ofIndividuals 4 ⟨2, mapper.fitness, .singlePoint⟩
      (digitSeeds.map fun genes =>
        (Individual.ofChromosome mapper.fitness genes).value)
      (.ofList [0x9E3779B97F4A7C15, 0xBF58476D1CE4E5B9, 7])⟩

theorem reachable_digits :
    digits.Reachable (Demonstration.mapper .standard).fitness := by
  have made : (Population.create 4 2 (Demonstration.mapper .standard).fitness
      (ScriptedWords.ofList [0x9E3779B97F4A7C15, 0xBF58476D1CE4E5B9, 7])
      digitSeeds).value = .ok digits.population := rfl
  have accepted : ofPopulation digits.settings digits.population =
      .ok digits := rfl
  exact .wrapped (.created made) accepted

theorem outcome_digits :
    (∀ individual ∈ digits.population.individuals,
      individual.Fresh (Demonstration.mapper .standard).fitness) ∧
    ∃ result, (digits.run .silent).value.result = .ok result ∧
      result.bestChromosome = [2, 127] ∧
      result.bestPhenotype = some (.list [.integer 7]) := by
  obtain ⟨fresh, outcome⟩ := assessments_never_stale
    (ρ := ScriptedWords) (φ := Expression)
  have best : (digits.run .silent).value.result.toOption.map
      RunResult.bestChromosome = some [2, 127] := by
    decide +kernel
  constructor
  · intro individual member
    exact fresh _ digits.population reachable_digits.population individual
      (List.mem_append_left _ member)
  · cases done : (digits.run .silent).value.result with
    | error error => exact nomatch done ▸ best
    | ok result =>
        rw [done] at best
        have chromosome : result.bestChromosome = [2, 127] :=
          Option.some.inj best
        have meaning := outcome _ digits .silent reachable_digits result done
        refine ⟨result, rfl, chromosome, (meaning.1 _).mpr ?_⟩
        rw [chromosome]
        decide +kernel

end Evolution

end GrammaticalEvolution
