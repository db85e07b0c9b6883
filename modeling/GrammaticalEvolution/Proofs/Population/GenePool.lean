import GrammaticalEvolution.Proofs.Population.Inheritance
import GrammaticalEvolution.Proofs.Population.Mating
import Mathlib.Data.Multiset.Filter

/-!
# The gene pool under recombination

A mating at a single point exchanges genes between two places of a generation,
locus by locus.  If both places are the same, the second child overwrites the
first, but then both have the genes of the one parent.  So events of this kind,
however many and whatever is drawn, only move genes within a locus.
-/

namespace GrammaticalEvolution

variable {ρ φ : Type}

/-- The genes that the individuals of a generation have at a locus. -/
def genesAt (locus : Nat) (generation : List (Individual φ)) :
    Multiset Gene :=
  (generation.filterMap fun individual => individual.chromosome[locus]? :
    List Gene)

/-- Two values written to two places that had them, in either order, are the
same values in another order. -/
theorem perm_set_set {α : Type} (values : List α) {first second : Nat}
    (inside : first < values.length) (otherInside : second < values.length)
    {elder younger : α}
    (exchanged : elder = values[first] ∧ younger = values[second] ∨
      elder = values[second] ∧ younger = values[first]) :
    ((values.set first elder).set second younger).Perm values := by
  rcases exchanged with ⟨rfl, rfl⟩ | ⟨rfl, rfl⟩
  · rw [List.set_getElem_self, List.set_getElem_self]
  · exact List.set_set_perm inside otherInside

/-- Individuals whose chromosomes exchange genes in two places of a generation
leave the genes at every locus as they are. -/
theorem genesAt_set_set {generation : List (Individual φ)}
    {first second : Nat} (inside : first < generation.length)
    (otherInside : second < generation.length)
    {elder younger : Individual φ}
    (exchanges : Chromosome.Exchanges generation[first].chromosome
      generation[second].chromosome (elder.chromosome, younger.chromosome))
    (locus : Nat) :
    genesAt locus ((generation.set first elder).set second younger) =
      genesAt locus generation := by
  have mapped : ∀ individuals : List (Individual φ),
      individuals.filterMap (fun individual => individual.chromosome[locus]?) =
        (individuals.map fun individual =>
          individual.chromosome[locus]?).filterMap id := by
    intro individuals
    rw [List.filterMap_map]
    rfl
  have permuted := perm_set_set
    (generation.map fun individual => individual.chromosome[locus]?)
    (by simpa using inside) (by simpa using otherInside)
    (by simpa using exchanges locus)
  unfold genesAt
  rw [mapped, mapped, List.map_set, List.map_set, Multiset.coe_eq_coe]
  exact permuted.filterMap id

namespace Breeder

variable [WordSource ρ] {breeder : Breeder φ}

theorem always_exchanges_children (breeder : Breeder φ)
    (singlePoint : breeder.recombination = .singlePoint)
    (first second : Chromosome) :
    Always (breeder.children first second : StateM ρ _)
      (Chromosome.Exchanges first second) := by
  rw [Breeder.children, singlePoint]
  exact Chromosome.always_exchanges_singlePoint first second

/-- At single points, individuals at two places of the generation exchange
genes. -/
theorem always_mate_exchanges (breeder : Breeder φ)
    {generation : List (Individual φ)}
    (singlePoint : breeder.recombination = .singlePoint)
    (positive : 0 < generation.length) :
    Always (breeder.mate generation : StateM ρ Mating) fun mating =>
      ∃ (inside : mating.first < generation.length)
        (otherInside : mating.second < generation.length),
        mating.parents = (generation[mating.first].chromosome,
          generation[mating.second].chromosome) ∧
        Chromosome.Exchanges mating.parents.1 mating.parents.2
          mating.children := by
  unfold mate
  refine .bind (Random.always_drawIndex positive) fun first inside => ?_
  refine .bind (Random.always_drawIndex positive) fun second otherInside => ?_
  refine .bind (breeder.always_exchanges_children singlePoint _ _)
    fun children exchanges => .pure ?_
  refine ⟨inside, otherInside, ?_, exchanges⟩
  simp only [List.getD_eq_getElem _ _ inside,
    List.getD_eq_getElem _ _ otherInside]

/-- One event always has children that fit, and conserves the genes at every
locus. -/
theorem always_mate_conserves {generation : List (Individual φ)}
    (singlePoint : breeder.recombination = .singlePoint)
    (positive : 0 < generation.length)
    (lengths : ∀ individual ∈ generation,
      individual.chromosome.length = breeder.chromosomeLength) :
    Always (breeder.mate generation : StateM ρ Mating) fun mating =>
      breeder.misfit? mating.children = none ∧
        ∀ locus, genesAt locus (breeder.settle generation mating) =
          genesAt locus generation := by
  intro source
  have born := breeder.always_mate positive source
  have exchanged := breeder.always_mate_exchanges singlePoint positive source
  generalize ((breeder.mate generation).run source).1 = mating at *
  obtain ⟨inside, otherInside, parents, exchanges⟩ := exchanged
  constructor
  · have elderLength := lengths _ (List.getElem_mem inside)
    have youngerLength := lengths _ (List.getElem_mem otherInside)
    obtain ⟨_, _, childLengths⟩ := born
    rw [parents] at childLengths
    obtain ⟨first, second⟩ :=
      childLengths singlePoint (elderLength.trans youngerLength.symm)
    exact misfit?_eq_none_iff.mpr
      ⟨first.trans youngerLength, second.trans elderLength⟩
  · rw [parents] at exchanges
    exact genesAt_set_set inside otherInside exchanges

/-- Any number of events succeed, and conserve the genes at every locus. -/
theorem always_crossEvents_conserves
    (singlePoint : breeder.recombination = .singlePoint) (events : Nat)
    {generation : List (Individual φ)} (positive : 0 < generation.length)
    (lengths : ∀ individual ∈ generation,
      individual.chromosome.length = breeder.chromosomeLength) :
    Always (Breeding.quiet (breeder.crossEvents events generation) :
      StateM ρ _) fun outcome => outcome.2 = none ∧
        ∀ locus, genesAt locus outcome.1 = genesAt locus generation := by
  induction events generalizing generation with
  | zero => exact .pure ⟨rfl, fun _ => rfl⟩
  | succ events induction =>
      rw [quiet_crossEvents_succ]
      refine .bind (always_mate_conserves singlePoint positive lengths) ?_
      rintro mating ⟨fits, conserved⟩
      rw [fits]
      have sized : 0 < (breeder.settle generation mating).length := by
        simpa [settle] using positive
      refine (induction sized (forall_length_settle lengths fits)).mono ?_
      rintro outcome ⟨succeeded, later⟩
      exact ⟨succeeded, fun locus => (later locus).trans (conserved locus)⟩

theorem always_crossover_conserves
    (singlePoint : breeder.recombination = .singlePoint) (rate : Float)
    {generation : List (Individual φ)}
    (lengths : ∀ individual ∈ generation,
      individual.chromosome.length = breeder.chromosomeLength) :
    Always (Breeding.quiet (breeder.crossover rate generation) :
      StateM ρ _) fun outcome => outcome.2 = none ∧
        ∀ locus, genesAt locus outcome.1 = genesAt locus generation := by
  unfold crossover
  split
  · exact .pure ⟨rfl, fun _ => rfl⟩
  · next nonempty =>
      exact always_crossEvents_conserves singlePoint _
        (List.length_pos_iff.mpr nonempty) lengths

end Breeder

namespace Population

variable [WordSource ρ]

theorem value_crossover (population : Population ρ φ) (rate : Float)
    (individuals : List (Individual φ)) :
    (population.crossover rate individuals).value =
      let result := (Breeding.quiet
        (population.breeder.crossover rate individuals)).run population.source
      (result.1, { population with source := result.2 }) := rfl

/-- Recombination at single points succeeds at every rate and whatever is
drawn.  Every locus keeps its genes, every individual has a chromosome of the
length of the population, and fitness and phenotype are those of its
chromosome. -/
theorem crossover_conserves_genes (population : Population ρ φ)
    (singlePoint : population.breeder.recombination = .singlePoint)
    (rate : Float) {individuals : List (Individual φ)}
    (lengths : ∀ individual ∈ individuals,
      individual.chromosome.length = population.breeder.chromosomeLength)
    (fresh : ∀ individual ∈ individuals,
      individual.Fresh population.breeder.fitness) :
    ∃ crossed source, (population.crossover rate individuals).value =
        ((crossed, none), { population with source := source }) ∧
      crossed.length = individuals.length ∧
      (∀ locus, genesAt locus crossed = genesAt locus individuals) ∧
      ∀ individual ∈ crossed,
        individual.chromosome.length = population.breeder.chromosomeLength ∧
        individual.Fresh population.breeder.fitness := by
  have conserved := Breeder.always_crossover_conserves singlePoint rate lengths
    population.source
  have keepsLength : population.breeder.Keeps ρ _ :=
    population.breeder.keeps_length
  have sized := keepsLength.children.crossover rate lengths population.source
  have keepsFresh : population.breeder.Keeps ρ _ := Breeder.keeps_fresh rfl
  have assessed := keepsFresh.children.crossover rate fresh population.source
  rw [value_crossover]
  generalize (Breeding.quiet
    (population.breeder.crossover rate individuals)).run population.source =
      result at *
  obtain ⟨⟨crossed, failure⟩, source⟩ := result
  obtain ⟨rfl, genes⟩ := conserved
  exact ⟨crossed, source, rfl, sized.1, genes, fun individual member =>
    ⟨sized.2 individual member, assessed.2 individual member⟩⟩

/-- Three individuals of two genes, with a source that has the first and the
last of them mate and then the first with itself. -/
def trio : Population ScriptedWords Chromosome :=
  ofIndividuals 3 ⟨2, singleGeneFitness, .singlePoint⟩
    ([[0, 10], [1, 11], [2, 12]].map fun genes =>
      (Individual.ofChromosome singleGeneFitness genes).value)
    (.ofList [0, 0xc000000000000000, 0x8000000000000000, 0, 0,
      0x8000000000000000])

theorem trio_conserves_genes :
    ∃ crossed source, (trio.crossover 0.7 trio.individuals).value =
        ((crossed, none), { trio with source := source }) ∧
      crossed.map Individual.chromosome = [[0, 12], [1, 11], [2, 10]] ∧
      genesAt 0 crossed = {0, 1, 2} ∧ genesAt 1 crossed = {10, 11, 12} := by
  have lengths : ∀ individual ∈ trio.individuals,
      individual.chromosome.length = 2 := by
    intro individual member
    obtain ⟨genes, inside, rfl⟩ := List.mem_map.mp member
    simp only [List.mem_cons, List.not_mem_nil, or_false] at inside
    rcases inside with rfl | rfl | rfl <;> rfl
  have fresh : ∀ individual ∈ trio.individuals,
      individual.Fresh singleGeneFitness := by
    intro individual member
    obtain ⟨genes, _, rfl⟩ := List.mem_map.mp member
    exact .assessed singleGeneFitness genes
  obtain ⟨crossed, source, succeeded, _, genes, _⟩ :=
    crossover_conserves_genes trio rfl 0.7 lengths fresh
  have chromosomes : (trio.crossover 0.7 trio.individuals).value.1.1.map
      Individual.chromosome = [[0, 12], [1, 11], [2, 10]] := by
    decide +kernel
  rw [succeeded] at chromosomes
  exact ⟨crossed, source, succeeded, chromosomes, (genes 0).trans rfl,
    (genes 1).trans rfl⟩

end Population

end GrammaticalEvolution
