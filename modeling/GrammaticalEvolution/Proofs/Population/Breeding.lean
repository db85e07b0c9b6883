import GrammaticalEvolution.Population
import GrammaticalEvolution.Proofs.Draws
import Mathlib.Data.List.GetD

/-!
# Properties that breeding keeps

Selection only takes members of a generation, recombination and mutation put
new individuals in their places.  If a property of individuals passes from
parents to children and from an individual to its mutants, it therefore passes
from a generation to everything bred from it, whatever is drawn and whatever
is noted.
-/

namespace GrammaticalEvolution

variable {ρ φ α β : Type}

namespace Breeding

/-- The draws and the result of a computation, without its notes. -/
def quiet (action : Breeding ρ α) : StateM ρ α :=
  fun source => (action.run source).value

@[simp] theorem quiet_pure (value : α) :
    quiet (pure value : Breeding ρ α) = pure value := rfl

@[simp] theorem quiet_bind (action : Breeding ρ α) (next : α → Breeding ρ β) :
    quiet (action >>= next) = quiet action >>= fun value =>
      quiet (next value) := rfl

@[simp] theorem quiet_draw (action : StateM ρ α) :
    quiet (Breeding.draw action) = action := rfl

@[simp] theorem quiet_noting (action : Journaled α) :
    quiet (Breeding.noting action : Breeding ρ α) = pure action.value := rfl

@[simp] theorem quiet_mapM (items : List α) (action : α → Breeding ρ β) :
    quiet (items.mapM action) = items.mapM fun item => quiet (action item) := by
  induction items with
  | nil => rfl
  | cons item items induction =>
      rw [List.mapM_cons, List.mapM_cons, quiet_bind]
      simp only [quiet_bind, quiet_pure, induction]

end Breeding

namespace Individual

variable [WordSource ρ]

/-- Mutation leaves an individual as it is or assesses other genes of the same
number, each its own or a fresh one. -/
theorem always_mutate (fitness : FitnessFunction φ) (rate : Float)
    (individual : Individual φ) :
    Always (Breeding.quiet (individual.mutate fitness rate) : StateM ρ _)
      fun result => result.2 = individual ∨ ∃ genes,
        genes.length = individual.chromosome.length ∧
        (∀ gene ∈ genes,
          gene ∈ individual.chromosome ∨ gene ≤ Random.maxGene) ∧
        result.2 = (ofChromosome fitness genes).value := by
  unfold mutate
  rw [Breeding.quiet_bind, Breeding.quiet_draw]
  refine .bind (Chromosome.always_mutate rate individual.chromosome) ?_
  rintro ⟨changed, genes⟩ ⟨length, known, same⟩
  cases changed with
  | true => exact .pure (.inr ⟨genes, length, known, rfl⟩)
  | false =>
      refine .pure (.inl ?_)
      rw [show genes = individual.chromosome from same rfl]

end Individual

section Selection

variable [WordSource ρ]

theorem getD_mem {individuals : List (Individual φ)} {position : Nat}
    (inside : position < individuals.length) :
    individuals.getD position .blank ∈ individuals := by
  rw [List.getD_eq_getElem _ _ inside]
  exact List.getElem_mem inside

/-- Fewer individuals than there are are winners of tournaments, and have what
every winner has. -/
theorem always_selectFrom_of_lt {individuals : List (Individual φ)}
    {amount : Nat} {property : Individual φ → Prop}
    (fewer : amount < individuals.length)
    (each : 2 ≤ individuals.length →
      Always (Tournament.winner (individuals.map Individual.fitness) :
        StateM ρ Nat) fun position =>
          property (individuals.getD position .blank)) :
    Always (selectFrom individuals amount : StateM ρ _) fun result =>
      ∃ selected, result = .ok selected ∧ selected.length = amount ∧
        ∀ individual ∈ selected, property individual := by
  unfold selectFrom
  rw [if_neg (Nat.not_lt_of_gt fewer), if_neg (Nat.ne_of_lt fewer)]
  have winners : Always ((List.range amount).mapM (fun _ => do
      let position ← Tournament.winner (individuals.map Individual.fitness)
      return individuals.getD position .blank) : StateM ρ _)
      fun selected => selected.length = (List.range amount).length ∧
        ∀ individual ∈ selected, property individual := by
    refine .mapM fun turn member => ?_
    have turnBelow := List.mem_range.mp member
    refine .bind (each (by omega)) fun position holds => ?_
    exact .pure holds
  refine .bind winners fun selected ⟨length, holds⟩ => ?_
  exact .pure ⟨selected, rfl, by simpa using length, holds⟩

/-- As many members as asked for, if there are so many. -/
theorem always_selectFrom {individuals : List (Individual φ)} {amount : Nat}
    (available : amount ≤ individuals.length) :
    Always (selectFrom individuals amount : StateM ρ _) fun result =>
      ∃ selected, result = .ok selected ∧ selected.length = amount ∧
        ∀ individual ∈ selected, individual ∈ individuals := by
  rcases Nat.lt_or_eq_of_le available with fewer | rfl
  · apply always_selectFrom_of_lt fewer
    intro pair
    have enough : 2 ≤ (individuals.map Individual.fitness).length := by
      rwa [List.length_map]
    refine (Tournament.always_winner enough).mono fun position inside => ?_
    rw [List.length_map] at inside
    exact getD_mem inside
  · unfold selectFrom
    rw [if_neg (Nat.lt_irrefl _), if_pos rfl]
    exact .pure ⟨individuals, rfl, rfl, fun _ member => member⟩

end Selection

namespace Breeder

variable [WordSource ρ] {breeder : Breeder φ}
  {property : Individual φ → Prop}

theorem misfit?_eq_none_iff {children : Chromosome × Chromosome} :
    breeder.misfit? children = none ↔
      children.1.length = breeder.chromosomeLength ∧
        children.2.length = breeder.chromosomeLength := by
  simp [misfit?]

theorem forall_mem_set {generation : List (Individual φ)}
    {individual : Individual φ} {position : Nat}
    (all : ∀ other ∈ generation, property other)
    (holds : property individual) :
    ∀ other ∈ generation.set position individual, property other := by
  intro other member
  rcases List.mem_or_eq_of_mem_set member with old | rfl
  · exact all other old
  · exact holds

variable (ρ) in
/-- A property passes from parents to children that fit. -/
def PassesOn (breeder : Breeder φ) (property : Individual φ → Prop) : Prop :=
  ∀ first second, property first → property second →
    Always (breeder.children first.chromosome second.chromosome : StateM ρ _)
      fun pair => breeder.misfit? pair = none →
        property (Individual.ofChromosome breeder.fitness pair.1).value ∧
        property (Individual.ofChromosome breeder.fitness pair.2).value

variable (ρ) in
/-- A property passes from individuals to their mutants at a rate. -/
def PassesToMutants (breeder : Breeder φ) (rate : Float)
    (property : Individual φ → Prop) : Prop :=
  ∀ individual, property individual →
    Always (Breeding.quiet (individual.mutate breeder.fitness rate) :
      StateM ρ _) fun result => property result.2

variable (ρ) in
/-- A property passes from parents to children that fit and from individuals
to their mutants. -/
structure Keeps (breeder : Breeder φ) (property : Individual φ → Prop) :
    Prop where
  children : breeder.PassesOn ρ property
  mutant : ∀ rate, breeder.PassesToMutants ρ rate property

variable (ρ) in
/-- Recombination and mutation at two rates keep a size and what all
individuals have in common. -/
structure KeepsAt (breeder : Breeder φ) (crossoverRate mutationRate : Float)
    (property : Individual φ → Prop) : Prop where
  crossed : ∀ generation, (∀ individual ∈ generation, property individual) →
    Always (Breeding.quiet (breeder.crossover crossoverRate generation) :
      StateM ρ _) fun outcome => outcome.1.length = generation.length ∧
        ∀ individual ∈ outcome.1, property individual
  mutated : ∀ generation, (∀ individual ∈ generation, property individual) →
    Always (Breeding.quiet (breeder.mutateAll mutationRate generation) :
      StateM ρ _) fun mutants => mutants.length = generation.length ∧
        ∀ individual ∈ mutants, property individual

/-- Crossover events keep the size, also those that are broken off. -/
theorem PassesOn.crossEvents (passes : breeder.PassesOn ρ property)
    (events : Nat)
    {generation : List (Individual φ)} (nonempty : generation ≠ [])
    (all : ∀ individual ∈ generation, property individual) :
    Always (Breeding.quiet (breeder.crossEvents events generation) :
      StateM ρ _) fun outcome => outcome.1.length = generation.length ∧
        ∀ individual ∈ outcome.1, property individual := by
  have positive : 0 < generation.length := List.length_pos_iff.mpr nonempty
  induction events generalizing generation with
  | zero => exact .pure ⟨rfl, all⟩
  | succ events induction =>
      unfold Breeder.crossEvents
      simp only [Breeding.quiet_bind, Breeding.quiet_draw]
      refine .bind (Random.always_drawIndex positive) fun first inside => ?_
      refine .bind (Random.always_drawIndex positive)
        fun second otherInside => ?_
      refine .bind (passes _ _ (all _ (getD_mem inside))
        (all _ (getD_mem otherInside))) fun pair fitting => ?_
      cases misfit : breeder.misfit? pair with
      | some child => exact .pure ⟨rfl, all⟩
      | none =>
          obtain ⟨elderHolds, youngerHolds⟩ := fitting misfit
          simp only [Breeding.quiet_bind, Breeding.quiet_noting, pure_bind]
          generalize (Individual.ofChromosome breeder.fitness pair.1).value =
            elder at elderHolds
          generalize (Individual.ofChromosome breeder.fitness pair.2).value =
            younger at youngerHolds
          have length : ((generation.set first elder).set second
              younger).length = generation.length := by simp
          rw [← length]
          refine induction ?_ ?_ (by rwa [length])
          · rw [← List.length_pos_iff, length]
            exact positive
          · exact forall_mem_set (forall_mem_set all elderHolds) youngerHolds

theorem PassesOn.crossover (passes : breeder.PassesOn ρ property)
    (rate : Float) {generation : List (Individual φ)}
    (all : ∀ individual ∈ generation, property individual) :
    Always (Breeding.quiet (breeder.crossover rate generation) :
      StateM ρ _) fun outcome => outcome.1.length = generation.length ∧
        ∀ individual ∈ outcome.1, property individual := by
  unfold Breeder.crossover
  by_cases empty : generation = []
  · rw [if_pos empty]
    exact .pure ⟨rfl, all⟩
  · rw [if_neg empty]
    exact passes.crossEvents _ empty all

theorem PassesToMutants.mutateAll {rate : Float}
    (passes : breeder.PassesToMutants ρ rate property)
    {generation : List (Individual φ)}
    (all : ∀ individual ∈ generation, property individual) :
    Always (Breeding.quiet (breeder.mutateAll rate generation) :
      StateM ρ _) fun mutants => mutants.length = generation.length ∧
        ∀ individual ∈ mutants, property individual := by
  unfold Breeder.mutateAll
  rw [Breeding.quiet_mapM]
  refine .mapM fun individual member => ?_
  rw [Breeding.quiet_bind]
  refine .bind (passes individual (all individual member)) ?_
  intro result holds
  exact .pure holds

theorem Keeps.at_rates (keeps : breeder.Keeps ρ property)
    (crossoverRate mutationRate : Float) :
    breeder.KeepsAt ρ crossoverRate mutationRate property where
  crossed _ all := keeps.children.crossover crossoverRate all
  mutated _ all := (keeps.mutant mutationRate).mutateAll all

end Breeder

namespace Population

variable [WordSource ρ]

/-- Two individuals beside the tournament winners are bred; the best one
follows them untouched. -/
theorem always_breed {population : Population ρ φ}
    {property : Individual φ → Prop} {crossoverRate mutationRate : Float}
    (keeps : population.breeder.KeepsAt ρ crossoverRate mutationRate property)
    (available : population.size - 3 ≤ population.individuals.length)
    (all : ∀ individual ∈ population.individuals, property individual)
    (bestHolds : property population.best) :
    Always (Breeding.quiet (population.breed crossoverRate mutationRate))
      fun result => ∀ individuals, result = .ok individuals →
        ∃ bred, individuals = bred ++ [population.best] ∧
          bred.length = population.size - 3 + 2 ∧
          ∀ individual ∈ bred, property individual := by
  unfold breed
  simp only [Breeding.quiet_bind, Breeding.quiet_draw]
  refine .bind (always_selectFrom available) ?_
  rintro _ ⟨winners, rfl, count, members⟩
  have parents : ∀ individual ∈ population.best :: population.best :: winners,
      property individual := by
    simp only [List.forall_mem_cons]
    exact ⟨bestHolds, bestHolds, fun individual member =>
      all individual (members individual member)⟩
  simp only [Breeding.quiet_bind]
  refine .bind (keeps.crossed _ parents) ?_
  rintro ⟨crossed, failure⟩ ⟨crossedCount, crossedHold⟩
  cases failure with
  | some error => exact .pure fun _ failed => nomatch failed
  | none =>
      simp only [Breeding.quiet_bind]
      refine .bind (keeps.mutated _ crossedHold) ?_
      rintro bred ⟨bredCount, bredHold⟩
      refine .pure fun individuals done => ⟨bred, ?_, ?_, bredHold⟩
      · exact (Except.ok.inj done).symm
      · rw [bredCount, crossedCount, ← count]
        rfl

/-- An individual assessed from a seed chromosome or from fresh genes. -/
def Founder (breeder : Breeder φ) (seeds : List Chromosome)
    (individual : Individual φ) : Prop :=
  ∃ genes,
    individual = (Individual.ofChromosome breeder.fitness genes).value ∧
    (genes ∈ seeds ∨ genes.length = breeder.chromosomeLength ∧
      ∀ gene ∈ genes, gene ≤ Random.maxGene)

theorem always_random_founder (breeder : Breeder φ)
    (seeds : List Chromosome) :
    Always (Breeding.quiet (Individual.random breeder.fitness
      breeder.chromosomeLength) : StateM ρ _) (Founder breeder seeds) := by
  unfold Individual.random
  rw [Breeding.quiet_bind, Breeding.quiet_draw]
  refine .bind (Chromosome.always_random breeder.chromosomeLength) ?_
  intro genes fresh
  exact .pure ⟨genes, rfl, .inr fresh⟩

theorem always_firstGeneration (size : Nat) (breeder : Breeder φ)
    (seeds : List Chromosome) :
    Always (Breeding.quiet (firstGeneration size breeder seeds) : StateM ρ _)
      fun individuals =>
        individuals.length = seeds.length + (size - seeds.length) ∧
        ∀ individual ∈ individuals, Founder breeder seeds individual := by
  unfold firstGeneration
  simp only [Breeding.quiet_bind, Breeding.quiet_mapM, Breeding.quiet_noting,
    Breeding.quiet_pure]
  have seeded : ∀ seed ∈ seeds, Always
      (pure (Individual.ofChromosome breeder.fitness seed).value : StateM ρ _)
      (Founder breeder seeds) :=
    fun seed member => .pure ⟨seed, rfl, .inl member⟩
  refine .bind (.mapM seeded) ?_
  rintro first ⟨firstCount, firstFrom⟩
  refine .bind (.mapM fun _ _ => always_random_founder breeder seeds) ?_
  rintro others ⟨othersCount, othersFrom⟩
  refine .pure ⟨?_, ?_⟩
  · rw [List.length_append, firstCount, othersCount, List.length_range]
  · intro individual member
    rcases List.mem_append.mp member with inFirst | inOthers
    · exact firstFrom individual inFirst
    · exact othersFrom individual inOthers

end Population

end GrammaticalEvolution
