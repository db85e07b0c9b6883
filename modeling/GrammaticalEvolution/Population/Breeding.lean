import GrammaticalEvolution.ErrorText
import GrammaticalEvolution.Individual
import GrammaticalEvolution.Tournament

/-!
# Selection, recombination and mutation of generations

A generation is a list of individuals.  Selection takes tournament winners,
recombination replaces pairs of individuals by children of theirs, and mutation
goes through all individuals in order.  Children must keep the length that all
chromosomes of a population have.
-/

namespace GrammaticalEvolution

/-- The two rates that a generation is bred with. -/
inductive RateKind where
  | crossover
  | mutation
deriving DecidableEq, Repr

def RateKind.name : RateKind → String
  | .crossover => "Crossover"
  | .mutation => "Mutation"

def minPopulation : Nat := 4

/-- Why a population cannot be made or bred. -/
inductive PopulationError where
  | tooSmall (size : Nat)
  | noGenes
  | tooManySeeds (seeds size : Nat)
  | chromosomeLength (expected actual : Nat)
  | selection (requested available : Nat)
  | rateOutside (kind : RateKind) (rate : Float)

def PopulationError.message : PopulationError → String
  | .tooSmall size => ErrorText.configuration
      s!"Population size must be at least {minPopulation}, got {size}"
  | .noGenes => ErrorText.configuration "Chromosome length must be at least 1"
  | .tooManySeeds seeds size => ErrorText.configuration
      s!"{seeds} seed chromosomes exceed population size {size}"
  | .chromosomeLength expected actual =>
      ErrorText.chromosomeLength expected actual
  | .selection requested available => ErrorText.selection requested available
  | .rateOutside kind rate => ErrorText.configuration
      (kind.name ++ " rate must be between 0 and 1, got " ++
        Decimal.Layout.plain.write rate)

/-- How the chromosomes of two parents are recombined. -/
inductive Recombination where
  | singlePoint
  | custom (cross : Chromosome → Chromosome → Chromosome × Chromosome)

def Recombination.describe : Recombination → String
  | .singlePoint => "SinglePoint"
  | .custom _ => "Custom"

/-- What stays the same while a population is bred. -/
structure Breeder (φ : Type) where
  chromosomeLength : Nat
  fitness : FitnessFunction φ
  recombination : Recombination

variable {ρ φ : Type} [WordSource ρ]

/-- Winners of that many tournaments.  All individuals together are selected as
they are, without a tournament. -/
def selectFrom (individuals : List (Individual φ)) (amount : Nat) :
    StateM ρ (Except PopulationError (List (Individual φ))) := do
  if individuals.length < amount then
    return .error (.selection amount individuals.length)
  else if amount = individuals.length then return .ok individuals
  else
    let fitness := individuals.map Individual.fitness
    let winners ← (List.range amount).mapM fun _ => do
      let position ← Tournament.winner fitness
      return individuals.getD position .blank
    return .ok winners

namespace Breeder

def children (breeder : Breeder φ) (first second : Chromosome) :
    StateM ρ (Chromosome × Chromosome) :=
  match breeder.recombination with
  | .singlePoint => Chromosome.singlePoint first second
  | .custom cross => return cross first second

/-- The first child that does not have the length of the population. -/
def misfit? (breeder : Breeder φ) (children : Chromosome × Chromosome) :
    Option Chromosome :=
  [children.1, children.2].find?
    (fun child => child.length != breeder.chromosomeLength)

/-- Crossover events one after the other.  Each draws two positions, which may
be the same, and puts the children in their places.  A child of another length
ends them, and the events before it remain. -/
def crossEvents (breeder : Breeder φ) :
    (events : Nat) → List (Individual φ) →
      Breeding ρ (List (Individual φ) × Option PopulationError)
  | 0, generation => return (generation, none)
  | events + 1, generation => do
      let first ← Breeding.draw (Random.drawIndex generation.length)
      let second ← Breeding.draw (Random.drawIndex generation.length)
      let pair ← Breeding.draw (breeder.children
        (generation.getD first .blank).chromosome
        (generation.getD second .blank).chromosome)
      match breeder.misfit? pair with
      | some child =>
          return (generation,
            some (.chromosomeLength breeder.chromosomeLength child.length))
      | none =>
          let elder ← Breeding.noting
            (Individual.ofChromosome breeder.fitness pair.1)
          let younger ← Breeding.noting
            (Individual.ofChromosome breeder.fitness pair.2)
          breeder.crossEvents events
            ((generation.set first elder).set second younger)

/-- Number of crossover events at a rate: the whole part of the product with
the size. -/
def eventCount (size : Nat) (rate : Float) : Nat :=
  (size.toUInt64.toFloat * rate).toUInt64.toNat

def crossover (breeder : Breeder φ) (rate : Float)
    (generation : List (Individual φ)) :
    Breeding ρ (List (Individual φ) × Option PopulationError) :=
  if generation = [] then return (generation, none)
  else breeder.crossEvents (eventCount generation.length rate) generation

def mutateAll (breeder : Breeder φ) (rate : Float)
    (generation : List (Individual φ)) : Breeding ρ (List (Individual φ)) :=
  generation.mapM fun individual => do
    let (_, mutant) ← individual.mutate breeder.fitness rate
    return mutant

end Breeder

end GrammaticalEvolution
