import GrammaticalEvolution.Chromosome
import GrammaticalEvolution.Expression.Display
import GrammaticalEvolution.Journal

/-!
# Individuals

An individual is a chromosome with the fitness and the phenotype that a fitness
function gave it.  The fitness function is asked once for every chromosome, and
again only when a mutation has changed a gene.
-/

namespace GrammaticalEvolution

open Decimal Text

/-- What a fitness function says about a chromosome: its fitness, and the
phenotypes handed out while finding it, in order. -/
structure Assessment (φ : Type) where
  fitness : Float
  published : List φ

/-- A judgement of chromosomes that may note what it does. -/
abbrev FitnessFunction (φ : Type) := Chromosome → Journaled (Assessment φ)

/-- A computation that draws from a source and notes what it does. -/
abbrev Breeding (ρ : Type) := StateT ρ Journaled

def Breeding.draw {ρ α : Type} (action : StateM ρ α) : Breeding ρ α :=
  fun source => pure (action.run source)

def Breeding.noting {ρ α : Type} (action : Journaled α) : Breeding ρ α :=
  fun source => do
    let value ← action
    return (value, source)

/-- Phenotypes that have a description. -/
class Described (φ : Type) where
  describe : φ → String

instance : Described Expression where
  describe := Expression.describe

/-- A chromosome with its fitness and the phenotype that was handed out last. -/
structure Individual (φ : Type) where
  chromosome : Chromosome
  fitness : Float
  phenotype : Option φ

namespace Individual

variable {φ : Type}

/-- The individual that an assessment makes of a chromosome. -/
def ofAssessment (chromosome : Chromosome) (assessment : Assessment φ) :
    Individual φ :=
  ⟨chromosome, assessment.fitness, assessment.published.getLast?⟩

def ofChromosome (fitness : FitnessFunction φ) (chromosome : Chromosome) :
    Journaled (Individual φ) := do
  let assessment ← fitness chromosome
  return ofAssessment chromosome assessment

/-- An individual without genes, standing in where there is none. -/
def blank : Individual φ :=
  ⟨[], 0.0, none⟩

variable {ρ : Type} [WordSource ρ]

def random (fitness : FitnessFunction φ) (length : Nat) :
    Breeding ρ (Individual φ) := do
  let chromosome ← Breeding.draw (Chromosome.random length)
  Breeding.noting (ofChromosome fitness chromosome)

/-- Mutate the chromosome, and assess it again if it changed. -/
def mutate (fitness : FitnessFunction φ) (rate : Float)
    (individual : Individual φ) : Breeding ρ (Bool × Individual φ) := do
  let (changed, chromosome) ←
    Breeding.draw (individual.chromosome.mutate rate)
  if changed then
    let mutant ← Breeding.noting (ofChromosome fitness chromosome)
    return (true, mutant)
  else return (false, { individual with chromosome })

def genesText (genes : List Gene) : String :=
  bracketed (genes.map fun gene => String.ofList (naturalChars gene.toNat))

/-- The phenotype, if any, with its constructor. -/
def phenotypeText [Described φ] (individual : Individual φ) : String :=
  match individual.phenotype with
  | none => "None"
  | some phenotype => "Some(" ++ Described.describe phenotype ++ ")"

def describe [Described φ] (individual : Individual φ) : String :=
  "Individual \x7b fitness: " ++ Layout.described.write individual.fitness ++
    ", phenotype: " ++ individual.phenotypeText ++
    ", chromosome: " ++ genesText individual.chromosome ++ " \x7d"

/-- One line about the individual, with long texts cut off. -/
def summary [Described φ] (individual : Individual φ) : String :=
  let phenotype := String.ofList (individual.phenotypeText.toList.take 60)
  "Fitness: " ++ writePlaces 4 individual.fitness ++
    "  Phenotype: " ++ phenotype ++
    "...  Chromosome: " ++ genesText (individual.chromosome.take 10) ++ "..."

end Individual

end GrammaticalEvolution
