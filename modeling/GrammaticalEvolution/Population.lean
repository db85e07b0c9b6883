import GrammaticalEvolution.Population.Breeding

/-!
# Populations

A population keeps its size while generations follow one another.  Every
generation starts with two copies of the best individual so far, goes on with
tournament winners, is recombined and mutated, and ends with one more copy of
the best that none of this touches.  A generation that cannot be completed
leaves everything but the random source as it was.
-/

namespace GrammaticalEvolution

/-- A generation of individuals, the one before it, and what breeds them. -/
structure Population (ρ φ : Type) where
  size : Nat
  breeder : Breeder φ
  generation : Nat
  individuals : List (Individual φ)
  previous : List (Individual φ)
  bestIndex : Nat
  source : ρ

/-- A summary of a generation. -/
structure Statistics (φ : Type) where
  topFitness : Float
  averageFitness : Float
  leader : Individual φ

namespace Population

variable {ρ φ : Type}

/-- Go on looking for the fittest individual, with the position to look at
next, and the position and fitness of the best so far. -/
def bestFrom : (position best : Nat) → (fitness : Float) →
    List (Individual φ) → Nat
  | _, best, _, [] => best
  | position, best, fitness, individual :: rest =>
      if fitness < individual.fitness then
        bestFrom (position + 1) position individual.fitness rest
      else bestFrom (position + 1) best fitness rest

/-- Position of the first individual that no other one is fitter than. -/
def bestPosition : List (Individual φ) → Nat
  | [] => 0
  | first :: rest => bestFrom 1 0 first.fitness rest

/-- The fittest individual of the current generation. -/
def best (population : Population ρ φ) : Individual φ :=
  population.individuals.getD population.bestIndex .blank

/-- Check the size, the chromosome length and the seed chromosomes. -/
def checkShape (size chromosomeLength : Nat) (seeds : List Chromosome) :
    Except PopulationError Unit :=
  if size < minPopulation then .error (.tooSmall size)
  else if chromosomeLength = 0 then .error .noGenes
  else if size < seeds.length then .error (.tooManySeeds seeds.length size)
  else match seeds.find? (fun seed => seed.length != chromosomeLength) with
    | some seed => .error (.chromosomeLength chromosomeLength seed.length)
    | none => .ok ()

/-- A population whose first generation is given. -/
def ofIndividuals (size : Nat) (breeder : Breeder φ)
    (individuals : List (Individual φ)) (source : ρ) : Population ρ φ :=
  ⟨size, breeder, 0, individuals, [], bestPosition individuals, source⟩

def withRecombination (population : Population ρ φ)
    (recombination : Recombination) : Population ρ φ :=
  { population with
    breeder := { population.breeder with recombination := recombination } }

/-- The fittest individual, found by a scan of its own, with the total of all
fitness values. -/
def statistics (population : Population ρ φ) : Statistics φ :=
  let first := population.individuals.headD .blank
  let leader := population.individuals.foldl
    (fun leader individual =>
      if leader.fitness < individual.fitness then individual else leader)
    first
  let total := population.individuals.foldl
    (fun total individual => total + individual.fitness) 0.0
  { topFitness := leader.fitness
    averageFitness := total / population.individuals.length.toUInt64.toFloat
    leader := leader }

/-- The part of the library that notes about populations come from. -/
def target : String := "gacore::engines::generation::population"

def glance (population : Population ρ φ) : Journaled Unit :=
  let statistics := population.statistics
  let average := Decimal.writePlaces 4 statistics.averageFitness
  let top := Decimal.writePlaces 4 statistics.topFitness
  .note .info target
    (s!"Generation: {population.generation}  " ++
      s!"Avg fitness: {average}  Top fitness: {top}")

/-- Note one line about every individual of a list. -/
def noteAll [Described φ] : List (Individual φ) → Journaled Unit
  | [] => pure ()
  | individual :: rest => do
      .note .info target individual.summary
      noteAll rest

/-- Note the summary line and all individuals of the current generation. -/
def look [Described φ] (population : Population ρ φ) : Journaled Unit := do
  population.glance
  noteAll population.individuals

/-- Note all individuals of the generation before. -/
def lookBack [Described φ] (population : Population ρ φ) : Journaled Unit :=
  noteAll population.previous

/-- Check that a rate lies between zero and one; what is no number does not. -/
def checkRate (kind : RateKind) (rate : Float) : Except PopulationError Unit :=
  if 0.0 ≤ rate ∧ rate ≤ 1.0 then .ok () else .error (.rateOutside kind rate)

def install (population : Population ρ φ) (individuals : List (Individual φ))
    (source : ρ) : Population ρ φ :=
  { population with
    generation := population.generation + 1
    individuals := individuals
    previous := population.individuals
    bestIndex := bestPosition individuals
    source := source }

def noteInstalled (population : Population ρ φ) : Journaled Unit :=
  let fitness := Decimal.writePlaces 4 population.best.fitness
  .note .debug target
    s!"Generation {population.generation} installed, best fitness {fitness}"

variable [WordSource ρ]

/-- A first generation that starts with seed chromosomes and goes on with
random ones. -/
def firstGeneration (size : Nat) (breeder : Breeder φ)
    (seeds : List Chromosome) : Breeding ρ (List (Individual φ)) := do
  let seeded ← seeds.mapM fun seed =>
    Breeding.noting (Individual.ofChromosome breeder.fitness seed)
  let others ← (List.range (size - seeds.length)).mapM fun _ =>
    Individual.random breeder.fitness breeder.chromosomeLength
  return seeded ++ others

/-- Make a population of a size and a chromosome length. -/
def create (size chromosomeLength : Nat) (fitness : FitnessFunction φ)
    (source : ρ) (seeds : List Chromosome) :
    Journaled (Except PopulationError (Population ρ φ)) :=
  match checkShape size chromosomeLength seeds with
  | .error error => pure (.error error)
  | .ok () => do
      let breeder := ⟨chromosomeLength, fitness, .singlePoint⟩
      let (individuals, source) ←
        (firstGeneration size breeder seeds).run source
      return .ok (ofIndividuals size breeder individuals source)

def select (population : Population ρ φ) (amount : Nat) :
    Except PopulationError (List (Individual φ)) × Population ρ φ :=
  let (selected, source) :=
    (selectFrom population.individuals amount).run population.source
  (selected, { population with source })

/-- Recombine a list of individuals as the population does. -/
def crossover (population : Population ρ φ) (rate : Float)
    (individuals : List (Individual φ)) :
    Journaled ((List (Individual φ) × Option PopulationError) ×
      Population ρ φ) := do
  let (result, source) ←
    (population.breeder.crossover rate individuals).run population.source
  return (result, { population with source })

/-- Mutate a list of individuals as the population does. -/
def mutate (population : Population ρ φ) (rate : Float)
    (individuals : List (Individual φ)) :
    Journaled (List (Individual φ) × Population ρ φ) := do
  let (result, source) ←
    (population.breeder.mutateAll rate individuals).run population.source
  return (result, { population with source })

/-- Breed the next generation without installing it. -/
def breed (population : Population ρ φ) (crossoverRate mutationRate : Float) :
    Breeding ρ (Except PopulationError (List (Individual φ))) := do
  let elite := population.best
  let selected ← Breeding.draw
    (selectFrom population.individuals (population.size - 3))
  match selected with
  | .error error => return .error error
  | .ok winners =>
      let (crossed, failure) ← population.breeder.crossover crossoverRate
        (elite :: elite :: winners)
      match failure with
      | some error => return .error error
      | none =>
          let mutated ← population.breeder.mutateAll mutationRate crossed
          return .ok (mutated ++ [elite])

def advance (population : Population ρ φ)
    (crossoverRate mutationRate : Float) :
    Journaled (Except PopulationError Unit × Population ρ φ) :=
  match checkRate .crossover crossoverRate,
      checkRate .mutation mutationRate with
  | .error error, _ => pure (.error error, population)
  | .ok (), .error error => pure (.error error, population)
  | .ok (), .ok () => do
      let (bred, source) ←
        (population.breed crossoverRate mutationRate).run population.source
      match bred with
      | .error error => return (.error error, { population with source })
      | .ok individuals =>
          let next := population.install individuals source
          next.noteInstalled
          return (.ok (), next)

end Population

end GrammaticalEvolution
