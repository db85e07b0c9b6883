import GrammaticalEvolution.Proofs.Population.Shape
import GrammaticalEvolution.SemanticMapper

/-!
# Fresh individuals

An individual is assessed whenever its genes are set and copied otherwise.
Mutation that changes no gene does not assess again, so that freshness rests
on what it reports: no gene has changed if none is said to have.
-/

namespace GrammaticalEvolution

variable {ρ φ : Type}

/-- Fitness and phenotype are those of the chromosome. -/
structure Individual.Fresh (fitness : FitnessFunction φ)
    (individual : Individual φ) : Prop where
  fitness_eq :
    individual.fitness = (fitness individual.chromosome).value.fitness
  phenotype_eq :
    individual.phenotype =
      (fitness individual.chromosome).value.published.getLast?

theorem Individual.Fresh.assessed (fitness : FitnessFunction φ)
    (genes : Chromosome) :
    (Individual.ofChromosome fitness genes).value.Fresh fitness :=
  ⟨rfl, rfl⟩

/-- Of an individual assessed by meaning, the phenotype is the expression that
the chromosome stands for, and the fitness is the score of its outcome. -/
theorem Individual.Fresh.meaning {mapper : SemanticMapper}
    {individual : Individual Expression}
    (fresh : individual.Fresh mapper.fitness) :
    (∀ expression, individual.phenotype = some expression ↔
      mapper.decode individual.chromosome = .ok expression) ∧
    (∀ expression, individual.phenotype = some expression →
      individual.fitness =
        mapper.score expression (mapper.evaluate expression)) ∧
    ((∀ expression, mapper.decode individual.chromosome ≠ .ok expression) →
      individual.phenotype = none ∧
        individual.fitness = mapper.failureFitness) := by
  obtain ⟨fitness, phenotype⟩ := fresh
  rw [mapper.value_fitness, SemanticMapper.assess] at fitness phenotype
  cases decoded : mapper.decode individual.chromosome with
  | error error =>
      rw [decoded] at fitness phenotype
      rw [phenotype]
      exact ⟨fun _ => ⟨nofun, nofun⟩, nofun, fun _ => ⟨rfl, fitness⟩⟩
  | ok derived =>
      rw [decoded] at fitness phenotype
      rw [phenotype]
      refine ⟨fun expression => ?_, fun expression same => ?_,
        fun underived => absurd rfl (underived derived)⟩
      · exact ⟨fun same => congrArg Except.ok (Option.some.inj same),
          fun same => congrArg some (Except.ok.inj same)⟩
      · obtain rfl := Option.some.inj same
        exact fitness

variable [WordSource ρ]

theorem Breeder.keeps_fresh {breeder : Breeder φ}
    {fitness : FitnessFunction φ} (same : breeder.fitness = fitness) :
    breeder.Keeps ρ (Individual.Fresh fitness) where
  children first second _ _ source _ := by
    rw [same]
    exact ⟨.assessed fitness _, .assessed fitness _⟩
  mutant rate individual fresh := by
    rw [same]
    refine (individual.always_mutate fitness rate).mono ?_
    rintro ⟨changed, mutant⟩ (unchanged | ⟨genes, _, _, assessed⟩)
    · rw [unchanged]
      exact fresh
    · rw [assessed]
      exact .assessed fitness genes

namespace Population

theorem Reachable.upholds_fresh {fitness : FitnessFunction φ}
    {population : Population ρ φ} (reachable : Reachable fitness population) :
    ∃ size length,
      Upholds size length fitness (fun _ => True) (Individual.Fresh fitness)
        population := by
  refine reachable.upholds ?_ fun breeder same => Breeder.keeps_fresh same
  rintro length seeds individual ⟨genes, rfl, _⟩
  exact .assessed fitness genes

theorem Reachable.best_mem {fitness : FitnessFunction φ}
    {population : Population ρ φ} (reachable : Reachable fitness population) :
    population.best ∈ population.individuals := by
  obtain ⟨size, length, upholds⟩ := reachable.upholds_fresh
  exact upholds.toShaped.best_mem

theorem Reachable.fresh {fitness : FitnessFunction φ}
    {population : Population ρ φ} (reachable : Reachable fitness population) :
    ∀ individual ∈ population.individuals ++ population.previous,
      individual.Fresh fitness := by
  obtain ⟨size, length, upholds⟩ := reachable.upholds_fresh
  exact upholds.forall_mem

end Population

end GrammaticalEvolution
