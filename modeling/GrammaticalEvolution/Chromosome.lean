import GrammaticalEvolution.Random.Source

/-!
# Chromosomes

A chromosome is a list of genes, each a selector for one choice of a
derivation.  Recombination exchanges tails, mutation replaces single genes, and
neither looks at what the genes mean.
-/

namespace GrammaticalEvolution

/-- A selector; drawn genes are at most `Random.maxGene`. -/
abbrev Gene := UInt32

abbrev Chromosome := List Gene

namespace Chromosome

/-- Two chromosomes with their tails exchanged from a point on. -/
def crossAt (first second : Chromosome) (point : Nat) :
    Chromosome × Chromosome :=
  (first.take point ++ second.drop point,
    second.take point ++ first.drop point)

/-- Exchange tails at a point that lies within both chromosomes. -/
def crossAt? (first second : Chromosome) (point : Nat) :
    Option (Chromosome × Chromosome) :=
  if point ≤ min first.length second.length then
    some (crossAt first second point)
  else none

variable {ρ : Type} [WordSource ρ]

/-- Exchange tails at a random point of the shorter chromosome.  Nothing is
drawn when one of them is empty. -/
def singlePoint (first second : Chromosome) :
    StateM ρ (Chromosome × Chromosome) := do
  let length := min first.length second.length
  if length = 0 then return (first, second)
  let point ← Random.drawIndex length
  return crossAt first second point

/-- Replace each gene with the given probability by a fresh one, and tell
whether any gene became another. -/
def mutate (rate : Float) : Chromosome → StateM ρ (Bool × Chromosome)
  | [] => return (false, [])
  | gene :: genes => do
      let chance ← Random.drawUnit
      if chance < rate then
        let fresh ← Random.drawGene
        let (changed, rest) ← mutate rate genes
        return (fresh != gene || changed, fresh :: rest)
      else
        let (changed, rest) ← mutate rate genes
        return (changed, gene :: rest)

def random : (length : Nat) → StateM ρ Chromosome
  | 0 => return []
  | length + 1 => do
      let gene ← Random.drawGene
      let genes ← random length
      return gene :: genes

end Chromosome

end GrammaticalEvolution
