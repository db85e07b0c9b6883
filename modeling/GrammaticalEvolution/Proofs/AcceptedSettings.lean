import GrammaticalEvolution.Proofs.EvolutionRun
import GrammaticalEvolution.Proofs.Population.Failure

/-!
# Runs by accepted settings

Settings that are accepted refuse no step of a run as long as their rates are
numbers.  A rate that is no number is accepted too, but then the first step
fails, and so does every run that has a step to take.
-/

namespace GrammaticalEvolution

variable {ρ φ : Type} [WordSource ρ]

namespace Evolution

variable {settings : EvolutionSettings} {remaining step : Nat}
  {population : Population ρ φ} {run : Run ρ φ} {fitness : FitnessFunction φ}

theorem breeder_of_advance {crossoverRate mutationRate : Float}
    {result : Except PopulationError Unit} {next : Population ρ φ}
    (advanced : (population.advance crossoverRate mutationRate).value =
      (result, next)) : next.breeder = population.breeder := by
  have step := population.advances crossoverRate mutationRate
  rw [advanced] at step
  cases step <;> rfl

/-- With rates inside and single-point recombination every step succeeds. -/
theorem Evolves.succeeds
    (evolved : Evolves settings remaining step population run)
    (crossoverInside : RateInside settings.crossoverRate)
    (mutationInside : RateInside settings.mutationRate)
    (reachable : population.Reachable fitness)
    (singlePoint : population.breeder.recombination = .singlePoint) :
    ∃ result, run.result = .ok result := by
  induction evolved with
  | exhausted => exact ⟨_, rfl⟩
  | reached => exact ⟨_, rfl⟩
  | @failed remaining step population next error short advanced =>
      obtain ⟨size, length, shaped⟩ := reachable.shaped
      have succeeds := shaped.advance_succeeds singlePoint crossoverInside
        mutationInside
      rw [advanced] at succeeds
      exact nomatch succeeds
  | stepped short advanced later induction =>
      apply induction (reachable.advanced advanced)
      rw [breeder_of_advance advanced]
      exact singlePoint

/-- A run that takes no step succeeds. -/
theorem Evolves.succeeds_at_once
    (evolved : Evolves settings remaining step population run)
    (stepless : remaining = 0 ∨ targetReached settings population = true) :
    ∃ result, run.result = .ok result := by
  cases evolved with
  | exhausted => exact ⟨_, rfl⟩
  | reached => exact ⟨_, rfl⟩
  | failed short | stepped short =>
      rcases stepless with noSteps | target
      · exact nomatch noSteps
      · exact nomatch short.symm.trans target

/-- With a rate outside the first step fails, unless none is taken. -/
theorem Evolves.fails
    (evolved : Evolves settings remaining step population run)
    (outside : ¬ (RateInside settings.crossoverRate ∧
      RateInside settings.mutationRate))
    (left : remaining ≠ 0)
    (short : targetReached settings population = false) :
    ∃ error, run.result = .error error := by
  cases evolved with
  | exhausted => exact absurd rfl left
  | reached target => exact nomatch short.symm.trans target
  | failed => exact ⟨_, rfl⟩
  | stepped _ advanced =>
      obtain ⟨_, refused⟩ := population.advance_of_outside outside
      exact nomatch refused.symm.trans advanced

theorem singlePoint_of_create {size length : Nat} {source : ρ}
    {seeds : List Chromosome} {start : Population ρ φ}
    (made : (Population.create size length fitness source seeds).value =
      .ok start) : start.breeder.recombination = .singlePoint := by
  obtain ⟨_, _, _, _, rfl⟩ := Population.create_eq_ok made
  rfl

/-- Whatever the fitness function and the observer: a step accepts a rate of an
evolution that was made if and only if the rate is a number, and a run succeeds
if and only if both rates are numbers or no step is taken. -/
theorem accepted_runs_succeed_iff {settings : EvolutionSettings}
    {source : ρ} {evolution : Evolution ρ φ}
    (made : (create settings fitness source).value = .ok evolution)
    (observer : Observer) :
    (Population.checkRate .crossover settings.crossoverRate = .ok () ↔
      settings.crossoverRate.isNaN = false) ∧
    (Population.checkRate .mutation settings.mutationRate = .ok () ↔
      settings.mutationRate.isNaN = false) ∧
    ((∃ result, (evolution.run observer).value.result = .ok result) ↔
      settings.crossoverRate.isNaN = false ∧
          settings.mutationRate.isNaN = false ∨
        settings.generations = 0 ∨
        targetReached settings evolution.population = true) := by
  obtain ⟨valid, rfl, start⟩ := create_eq_ok made
  obtain ⟨_, _, mutationWithin, crossoverWithin⟩ :=
    EvolutionSettings.validate_eq_ok_iff.mp valid
  rw [checkRate_eq_ok_iff, checkRate_eq_ok_iff, RateInside, RateInside,
    crossoverWithin, mutationWithin]
  refine ⟨and_iff_left rfl, and_iff_left rfl, ?_⟩
  have evolved := evolves evolution.settings observer
    evolution.settings.generations 0 evolution.population
  constructor
  · rintro ⟨result, done⟩
    by_contra undefined
    obtain ⟨outside, left, short⟩ :
        ¬ (RateInside evolution.settings.crossoverRate ∧
          RateInside evolution.settings.mutationRate) ∧
        evolution.settings.generations ≠ 0 ∧
        targetReached evolution.settings evolution.population = false := by
      simpa [RateInside, crossoverWithin, mutationWithin] using undefined
    obtain ⟨error, failed⟩ := evolved.fails outside left short
    cases failed.symm.trans done
  · rintro (⟨crossoverNumber, mutationNumber⟩ | stepless)
    · exact evolved.succeeds ⟨crossoverNumber, crossoverWithin⟩
        ⟨mutationNumber, mutationWithin⟩ (.created start)
        (singlePoint_of_create start)
    · exact evolved.succeeds_at_once stepless

/-- One step of four chromosomes with a gene each. -/
def oneStep (crossoverRate : Float) : EvolutionSettings :=
  ⟨4, 1, 1, crossoverRate, 0.5, none, none⟩

theorem oneStep_runs :
    (∃ evolution,
      (create (oneStep 1.0) Population.singleGeneFitness
        (ScriptedWords.ofList [0])).value = .ok evolution ∧
      ∃ result, (evolution.run .silent).value.result = .ok result) ∧
    ∃ evolution,
      (create (oneStep (0.0 / 0.0)) Population.singleGeneFitness
        (ScriptedWords.ofList [0])).value = .ok evolution ∧
      ¬ ∃ result, (evolution.run .silent).value.result = .ok result := by
  constructor
  · obtain ⟨evolution, made⟩ : ∃ evolution,
      (create (oneStep 1.0) Population.singleGeneFitness
        (ScriptedWords.ofList [0])).value = .ok evolution := ⟨_, rfl⟩
    obtain ⟨_, _, succeeds⟩ := accepted_runs_succeed_iff made .silent
    exact ⟨evolution, made, succeeds.mpr (.inl ⟨by decide, by decide⟩)⟩
  · obtain ⟨evolution, made⟩ : ∃ evolution,
      (create (oneStep (0.0 / 0.0)) Population.singleGeneFitness
        (ScriptedWords.ofList [0])).value = .ok evolution := ⟨_, rfl⟩
    obtain ⟨_, _, succeeds⟩ := accepted_runs_succeed_iff made .silent
    have undefined : (0.0 / 0.0 : Float).isNaN = true := by decide
    refine ⟨evolution, made, fun done => ?_⟩
    rcases succeeds.mp done with ⟨number, _⟩ | noSteps | target
    · exact nomatch number.symm.trans undefined
    · exact nomatch noSteps
    · exact nomatch target

end Evolution

end GrammaticalEvolution
