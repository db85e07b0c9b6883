import GrammaticalEvolution.Proofs.Population.Calls
import GrammaticalEvolution.Random.Scripted
import Mathlib.Data.List.Forall2

/-!
# The shape of a population

A generation is rebuilt from two copies of the best individual, the winners of
`size - 3` tournaments and one more copy, so its size stays.  Chromosomes keep
their length because children of another length end the step before they are
assessed.  The generation before the current one is that of the last step that
succeeded.
-/

namespace GrammaticalEvolution

variable {ρ φ : Type} [WordSource ρ]

namespace Breeder

theorem keeps_length (breeder : Breeder φ) :
    breeder.Keeps ρ fun individual =>
      individual.chromosome.length = breeder.chromosomeLength where
  children first second _ _ source fits :=
    misfit?_eq_none_iff.mp fits
  mutant rate individual length := by
    refine (individual.always_mutate breeder.fitness rate).mono ?_
    rintro ⟨changed, mutant⟩ (same | ⟨genes, sameLength, _, assessed⟩)
    · rw [same]
      exact length
    · rw [assessed]
      exact sameLength.trans length

/-- All genes are among those that can be drawn. -/
def SmallGenes (individual : Individual φ) : Prop :=
  ∀ gene ∈ individual.chromosome, gene ≤ Random.maxGene

theorem keeps_smallGenes {breeder : Breeder φ}
    (singlePoint : breeder.recombination = .singlePoint) :
    breeder.Keeps ρ SmallGenes where
  children first second firstSmall secondSmall := by
    rw [Breeder.children, singlePoint]
    refine (Chromosome.always_singlePoint _ _).mono fun pair inherited _ => ?_
    have small : ∀ gene, gene ∈ pair.1 ∨ gene ∈ pair.2 →
        gene ≤ Random.maxGene := by
      intro gene member
      rcases inherited gene member with inFirst | inSecond
      · exact firstSmall gene inFirst
      · exact secondSmall gene inSecond
    exact ⟨fun gene member => small gene (.inl member),
      fun gene member => small gene (.inr member)⟩
  mutant rate individual small := by
    refine (individual.always_mutate breeder.fitness rate).mono ?_
    rintro ⟨changed, mutant⟩ (same | ⟨genes, _, known, assessed⟩)
    · rw [same]
      exact small
    · rw [assessed]
      intro gene member
      rcases known gene member with old | fresh
      · exact small gene old
      · exact fresh

end Breeder

namespace Population

omit [WordSource ρ] in
theorem bestFrom_lt {position best : Nat} (before : best < position)
    (fitness : Float) (rest : List (Individual φ)) :
    bestFrom position best fitness rest < position + rest.length := by
  induction rest generalizing position best fitness with
  | nil => exact before
  | cons individual rest induction =>
      have shift : position + (individual :: rest).length =
          position + 1 + rest.length := by
        rw [List.length_cons]
        omega
      rw [shift, bestFrom]
      split
      · exact induction (Nat.lt_succ_self position) individual.fitness
      · exact induction (Nat.lt_succ_of_lt before) fitness

omit [WordSource ρ] in
theorem bestPosition_lt {individuals : List (Individual φ)}
    (nonempty : individuals ≠ []) :
    bestPosition individuals < individuals.length := by
  cases individuals with
  | nil => exact absurd rfl nonempty
  | cons first rest =>
      have bound := bestFrom_lt Nat.zero_lt_one first.fitness rest
      rwa [Nat.add_comm] at bound

section Comparisons

variable {τ : Type} {related : Individual φ → Individual τ → Prop}
  {lefts : List (Individual φ)} {rights : List (Individual τ)}

omit [WordSource ρ] in
theorem bestFrom_of_forall₂
    (agree : ∀ {left right leftOther rightOther}, related left right →
      related leftOther rightOther →
      (left.fitness < leftOther.fitness ↔ right.fitness < rightOther.fitness))
    (each : List.Forall₂ related lefts rights)
    {left : Individual φ} {right : Individual τ} (both : related left right)
    (position best : Nat) :
    bestFrom position best left.fitness lefts =
      bestFrom position best right.fitness rights := by
  induction each generalizing left right position best with
  | nil => rfl
  | @cons leftHead rightHead _ _ head tail induction =>
      have overtaken := agree both head
      unfold bestFrom
      by_cases less : left.fitness < leftHead.fitness
      · rw [if_pos less, if_pos (overtaken.mp less)]
        exact induction head _ _
      · rw [if_neg less, if_neg (mt overtaken.mpr less)]
        exact induction both _ _

omit [WordSource ρ] in
/-- Where fitness values compare alike in two lists, the best individuals stand
at the same position. -/
theorem bestPosition_of_forall₂
    (agree : ∀ {left right leftOther rightOther}, related left right →
      related leftOther rightOther →
      (left.fitness < leftOther.fitness ↔ right.fitness < rightOther.fitness))
    (each : List.Forall₂ related lefts rights) :
    bestPosition lefts = bestPosition rights := by
  cases each with
  | nil => rfl
  | cons head tail => exact bestFrom_of_forall₂ agree tail head 1 0

end Comparisons

/-- Size, chromosome length and best position fit the current generation. -/
structure Shaped (size length : Nat) (population : Population ρ φ) :
    Prop where
  minimum : minPopulation ≤ size
  size_eq : population.size = size
  length_eq : population.breeder.chromosomeLength = length
  count : population.individuals.length = size
  members : ∀ individual ∈ population.individuals,
    individual.chromosome.length = length
  best_eq : population.bestIndex = bestPosition population.individuals

namespace Shaped

variable {size length : Nat} {population : Population ρ φ}

omit [WordSource ρ] in
theorem nonempty (shaped : Shaped size length population) :
    population.individuals ≠ [] := by
  rw [← List.length_pos_iff, shaped.count]
  exact Nat.lt_of_lt_of_le (by decide) shaped.minimum

omit [WordSource ρ] in
theorem best_lt (shaped : Shaped size length population) :
    population.bestIndex < population.individuals.length := by
  rw [shaped.best_eq]
  exact bestPosition_lt shaped.nonempty

omit [WordSource ρ] in
theorem best_mem (shaped : Shaped size length population) :
    population.best ∈ population.individuals :=
  getD_mem shaped.best_lt

/-- The next generation has the size of this one, ends with its best
individual and has what breeding keeps at the two rates. -/
theorem bred_at (shaped : Shaped size length population)
    {property : Individual φ → Prop} {crossoverRate mutationRate : Float}
    (keeps : population.breeder.KeepsAt ρ crossoverRate mutationRate property)
    (all : ∀ individual ∈ population.individuals, property individual)
    {individuals : List (Individual φ)} {source : ρ}
    (done : (Breeding.quiet
      (population.breed crossoverRate mutationRate)).run population.source =
        (.ok individuals, source)) :
    individuals.length = size ∧
      individuals.getLast? = some population.best ∧
      ∀ individual ∈ individuals, property individual := by
  have available : population.size - 3 ≤ population.individuals.length := by
    rw [shaped.size_eq, shaped.count]
    exact Nat.sub_le size 3
  have bestHolds := all population.best shaped.best_mem
  have always := always_breed keeps available all bestHolds population.source
  rw [done] at always
  obtain ⟨front, rfl, count, holds⟩ := always individuals rfl
  refine ⟨?_, List.getLast?_concat, ?_⟩
  · have minimum := shaped.minimum
    unfold minPopulation at minimum
    rw [List.length_append, count, shaped.size_eq, List.length_singleton]
    omega
  · intro individual member
    rcases List.mem_append.mp member with inFront | atEnd
    · exact holds individual inFront
    · rw [List.mem_singleton.mp atEnd]
      exact bestHolds

/-- What breeding keeps at any rates, it keeps at these. -/
theorem bred (shaped : Shaped size length population)
    {property : Individual φ → Prop}
    (keeps : population.breeder.Keeps ρ property)
    (all : ∀ individual ∈ population.individuals, property individual)
    {crossoverRate mutationRate : Float}
    {individuals : List (Individual φ)} {source : ρ}
    (done : (Breeding.quiet
      (population.breed crossoverRate mutationRate)).run population.source =
        (.ok individuals, source)) :
    individuals.length = size ∧
      individuals.getLast? = some population.best ∧
      ∀ individual ∈ individuals, property individual :=
  shaped.bred_at (keeps.at_rates crossoverRate mutationRate) all done

theorem invariant (allowed : Recombination → Prop) :
    Invariant allowed (Shaped (ρ := ρ) (φ := φ) size length) where
  moved population source shaped :=
    ⟨shaped.minimum, shaped.size_eq, shaped.length_eq, shaped.count,
      shaped.members, shaped.best_eq⟩
  recombined population recombination _ shaped :=
    ⟨shaped.minimum, shaped.size_eq, shaped.length_eq, shaped.count,
      shaped.members, shaped.best_eq⟩
  installed population crossoverRate mutationRate individuals source shaped
      done := by
    have members : ∀ individual ∈ population.individuals,
        individual.chromosome.length =
          population.breeder.chromosomeLength := by
      rw [shaped.length_eq]
      exact shaped.members
    obtain ⟨count, _, fits⟩ :=
      shaped.bred population.breeder.keeps_length members done
    rw [shaped.length_eq] at fits
    exact ⟨shaped.minimum, shaped.size_eq, shaped.length_eq, count, fits, rfl⟩

end Shaped

/-- The founders of a first generation, one for each place. -/
theorem founders_of_create {size length : Nat} {fitness : FitnessFunction φ}
    {source : ρ} {seeds : List Chromosome} {start : Population ρ φ}
    (made : (create size length fitness source seeds).value = .ok start) :
    start.individuals.length = size ∧
      ∀ individual ∈ start.individuals,
        Founder ⟨length, fitness, .singlePoint⟩ seeds individual := by
  obtain ⟨⟨_, _, few, _⟩, individuals, rest, drawn, rfl⟩ := create_eq_ok made
  have always := always_firstGeneration size ⟨length, fitness, .singlePoint⟩
    seeds source
  rw [drawn] at always
  obtain ⟨count, founders⟩ := always
  exact ⟨count.trans (Nat.add_sub_cancel' few), founders⟩

theorem shaped_of_create {size length : Nat} {fitness : FitnessFunction φ}
    {source : ρ} {seeds : List Chromosome} {start : Population ρ φ}
    (made : (create size length fitness source seeds).value = .ok start) :
    Shaped size length start := by
  obtain ⟨count, founders⟩ := founders_of_create made
  obtain ⟨⟨minimum, _, _, fit⟩, individuals, rest, _, rfl⟩ :=
    create_eq_ok made
  refine ⟨minimum, rfl, rfl, count, fun individual member => ?_, rfl⟩
  obtain ⟨genes, rfl, seeded | ⟨fresh, _⟩⟩ := founders individual member
  · exact fit genes seeded
  · exact fresh

/-! ### Properties of all individuals -/

/-- A shaped population that is bred in an allowed way for a fitness function.
All its individuals have a property, those of the generation before too. -/
structure Upholds (size length : Nat) (fitness : FitnessFunction φ)
    (allowed : Recombination → Prop) (property : Individual φ → Prop)
    (population : Population ρ φ) : Prop
    extends Shaped size length population where
  fitness_eq : population.breeder.fitness = fitness
  recombination : allowed population.breeder.recombination
  current : ∀ individual ∈ population.individuals, property individual
  earlier : ∀ individual ∈ population.previous, property individual

namespace Upholds

variable {size length : Nat} {fitness : FitnessFunction φ}
  {allowed : Recombination → Prop} {property : Individual φ → Prop}

theorem invariant
    (keeps : ∀ breeder : Breeder φ, breeder.fitness = fitness →
      allowed breeder.recombination → breeder.Keeps ρ property) :
    Invariant allowed
      (Upholds (ρ := ρ) size length fitness allowed property) where
  moved population source upholds :=
    ⟨(Shaped.invariant allowed).moved population source
      upholds.toShaped, upholds.fitness_eq, upholds.recombination,
      upholds.current, upholds.earlier⟩
  recombined population recombination within upholds :=
    ⟨(Shaped.invariant allowed).recombined population recombination
      within upholds.toShaped, upholds.fitness_eq, within,
      upholds.current, upholds.earlier⟩
  installed population crossoverRate mutationRate individuals source upholds
      done := by
    have shaped := (Shaped.invariant allowed).installed population
      crossoverRate mutationRate individuals source upholds.toShaped done
    obtain ⟨_, _, holds⟩ := upholds.toShaped.bred
      (keeps population.breeder upholds.fitness_eq upholds.recombination)
      upholds.current done
    exact ⟨shaped, upholds.fitness_eq, upholds.recombination, holds,
      upholds.current⟩

omit [WordSource ρ] in
theorem forall_mem {population : Population ρ φ}
    (upholds : Upholds size length fitness allowed property population) :
    ∀ individual ∈ population.individuals ++ population.previous,
      property individual := by
  intro individual member
  rcases List.mem_append.mp member with inCurrent | inEarlier
  · exact upholds.current individual inCurrent
  · exact upholds.earlier individual inEarlier

theorem of_create {source : ρ} {seeds : List Chromosome}
    {start : Population ρ φ}
    (made : (create size length fitness source seeds).value = .ok start)
    (singlePoint : allowed .singlePoint)
    (founding : ∀ individual,
      Founder ⟨length, fitness, .singlePoint⟩ seeds individual →
      property individual) :
    Upholds size length fitness allowed property start := by
  obtain ⟨_, founders⟩ := founders_of_create made
  have shaped := shaped_of_create made
  obtain ⟨_, individuals, rest, _, rfl⟩ := create_eq_ok made
  exact ⟨shaped, rfl, singlePoint,
    fun individual member => founding individual (founders individual member),
    List.forall_mem_nil _⟩

/-- A property that founders have and breeding keeps is upheld by all calls. -/
theorem after {source : ρ} {seeds : List Chromosome}
    {start : Population ρ φ}
    (made : (create size length fitness source seeds).value = .ok start)
    (singlePoint : allowed .singlePoint)
    (founding : ∀ individual,
      Founder ⟨length, fitness, .singlePoint⟩ seeds individual →
      property individual)
    (keeps : ∀ breeder : Breeder φ, breeder.fitness = fitness →
      allowed breeder.recombination → breeder.Keeps ρ property)
    {calls : List (Call φ)} (within : ∀ call ∈ calls, call.Within allowed) :
    Upholds size length fitness allowed property (start.after calls) :=
  (invariant keeps).after (of_create made singlePoint founding) within

end Upholds

/-- What founders have and breeding keeps, whatever way to recombine is set,
holds for all individuals of every population that can be reached. -/
theorem Reachable.upholds {fitness : FitnessFunction φ}
    {population : Population ρ φ} {property : Individual φ → Prop}
    (reachable : Reachable fitness population)
    (founding : ∀ length seeds individual,
      Founder ⟨length, fitness, .singlePoint⟩ seeds individual →
      property individual)
    (keeps : ∀ breeder : Breeder φ, breeder.fitness = fitness →
      breeder.Keeps ρ property) :
    ∃ size length,
      Upholds size length fitness (fun _ => True) property population := by
  induction reachable with
  | @created size length source seeds start made =>
      exact ⟨size, length,
        .of_create made trivial (founding length seeds)⟩
  | called call before induction =>
      obtain ⟨size, length, upholds⟩ := induction
      refine ⟨size, length, (Upholds.invariant ?_).perform upholds
        call.within_all⟩
      exact fun breeder same _ => keeps breeder same

/-! ### Generations in a sequence of calls -/

/-- The individuals of the last population in a list, or else given ones. -/
def lastIndividuals (populations : List (Population ρ φ))
    (otherwise : List (Individual φ)) : List (Individual φ) :=
  (populations.getLast?.map individuals).getD otherwise

omit [WordSource ρ] in
theorem lastIndividuals_append (first second : List (Population ρ φ))
    (otherwise : List (Individual φ)) :
    lastIndividuals (first ++ second) otherwise =
      lastIndividuals second (lastIndividuals first otherwise) := by
  unfold lastIndividuals
  rw [List.getLast?_append]
  cases second.getLast? <;> rfl

theorem history_perform (population : Population ρ φ) (call : Call φ) :
    (population.perform call).generation =
        population.generation + (population.replacedBy call).length ∧
      (population.perform call).previous =
        lastIndividuals (population.replacedBy call) population.previous := by
  have change := population.changes call
  generalize population.perform call = next at change
  cases change with
  | moved kept =>
      rw [kept]
      exact ⟨rfl, rfl⟩
  | recombined asked =>
      rw [asked]
      exact ⟨rfl, rfl⟩
  | installed asked replaced bred =>
      rw [replaced]
      exact ⟨rfl, rfl⟩

theorem history_after (population : Population ρ φ) (calls : List (Call φ)) :
    (population.after calls).generation =
        population.generation + (population.replaced calls).length ∧
      (population.after calls).previous =
        lastIndividuals (population.replaced calls) population.previous := by
  induction calls generalizing population with
  | nil => exact ⟨rfl, rfl⟩
  | cons call calls induction =>
      obtain ⟨generation, previous⟩ := population.history_perform call
      obtain ⟨later, before⟩ := induction (population.perform call)
      rw [after_cons, later, before, generation, previous, replaced,
        List.length_append, lastIndividuals_append, Nat.add_assoc]
      exact ⟨rfl, rfl⟩

section Made

variable {size length : Nat} {fitness : FitnessFunction φ} {source : ρ}
  {seeds : List Chromosome} {start : Population ρ φ} {calls : List (Call φ)}

theorem shaped_after
    (made : (create size length fitness source seeds).value = .ok start) :
    Shaped size length (start.after calls) :=
  (Shaped.invariant fun _ => True).after (shaped_of_create made)
    fun call _ => call.within_all

/-- Without recombination of another kind, all genes come from the seeds or
are drawn. -/
theorem smallGenes_after
    (made : (create size length fitness source seeds).value = .ok start)
    (seedsSmall : ∀ seed ∈ seeds, ∀ gene ∈ seed, gene ≤ Random.maxGene)
    (within : ∀ call ∈ calls, call.Within (· = .singlePoint)) :
    Upholds size length fitness (· = .singlePoint) Breeder.SmallGenes
      (start.after calls) := by
  refine .after made ?_ ?_ ?_ within
  · rfl
  · rintro individual ⟨genes, rfl, seeded | ⟨_, drawn⟩⟩
    · exact seedsSmall genes seeded
    · exact drawn
  · intro breeder _ singlePoint
    exact Breeder.keeps_smallGenes singlePoint

/-- Whatever is called on a population that was made, and whether or not the
calls succeed, its shape is the one it was made with, and its history is that
of the steps that succeeded. -/
theorem shape_after_calls
    (made : (create size length fitness source seeds).value = .ok start)
    (calls : List (Call φ)) :
    let population := start.after calls
    let replaced := start.replaced calls
    (4 ≤ size ∧ 1 ≤ length ∧ population.size = size ∧
      population.breeder.chromosomeLength = length) ∧
    population.individuals.length = size ∧
    (∀ individual ∈ population.individuals,
      individual.chromosome.length = length) ∧
    population.generation = replaced.length ∧
    population.previous = lastIndividuals replaced [] ∧
    population.bestIndex < population.individuals.length ∧
    ((∀ seed ∈ seeds, ∀ gene ∈ seed, gene ≤ 255) →
      (∀ call ∈ calls, call.Within (· = .singlePoint)) →
      ∀ individual ∈ population.individuals ++ population.previous,
        ∀ gene ∈ individual.chromosome, gene ≤ 255) := by
  obtain ⟨minimum, positive, _, _⟩ := (create_eq_ok made).1
  have shaped : Shaped size length (start.after calls) := shaped_after made
  obtain ⟨generation, previous⟩ := start.history_after calls
  have fresh : start.generation = 0 ∧ start.previous = [] := by
    obtain ⟨_, individuals, rest, _, rfl⟩ := create_eq_ok made
    exact ⟨rfl, rfl⟩
  rw [fresh.1, Nat.zero_add] at generation
  rw [fresh.2] at previous
  refine ⟨⟨minimum, positive, shaped.size_eq, shaped.length_eq⟩, shaped.count,
    shaped.members, generation, previous, shaped.best_lt, ?_⟩
  intro seedsSmall within
  exact (smallGenes_after made seedsSmall within).forall_mem

end Made

/-! ### Four individuals of one gene -/

/-- One gene is fitter than all others. -/
def singleGeneFitness : FitnessFunction Chromosome :=
  fun genes => pure ⟨if genes = [1] then 1.0 else 0.0, [genes]⟩

def quartetSeeds : List Chromosome := [[0], [7], [1], [255]]

def quartet : Population ScriptedWords Chromosome :=
  ofIndividuals 4 ⟨1, singleGeneFitness, .singlePoint⟩
    (quartetSeeds.map fun genes =>
      ⟨genes, if genes = [1] then 1.0 else 0.0, some genes⟩)
    (.ofList [0])

theorem quartet_made :
    (create 4 1 singleGeneFitness (.ofList [0]) quartetSeeds :
      Journaled (Except _ (Population ScriptedWords _))).value =
      .ok quartet := rfl

theorem shape_quartet :
    let calls : List (Call Chromosome) :=
      [.advance 1.0 0.5, .select 9, .recombineBy .singlePoint,
        .advance 2.0 0.5, .mutate 1.0 [.blank], .advance 0.5 1.0]
    (quartet.after calls).individuals.length = 4 ∧
      ∀ individual ∈
        (quartet.after calls).individuals ++ (quartet.after calls).previous,
        ∀ gene ∈ individual.chromosome, gene ≤ 255 := by
  intro calls
  have seedsSmall : ∀ seed ∈ quartetSeeds, ∀ gene ∈ seed, gene ≤ 255 := by
    simp only [quartetSeeds, List.forall_mem_cons, List.not_mem_nil,
      false_imp_iff, implies_true, and_true]
    decide
  have within : ∀ call ∈ calls, call.Within (· = .singlePoint) := by
    simp [calls, Call.Within]
  obtain ⟨_, count, _, _, _, _, small⟩ := shape_after_calls quartet_made calls
  exact ⟨count, small seedsSmall within⟩

end Population

end GrammaticalEvolution
