import GrammaticalEvolution.Decimal.Scaled
import GrammaticalEvolution.Settings
import GrammaticalEvolution.Settings.Value

/-!
# Fields of settings

A section is a table with named fields or a list of them in order.  Missing
fields have their standard values and unknown ones are ignored.  Values of
another kind are converted where a number can be made of them.
-/

namespace GrammaticalEvolution

open Decimal

namespace Setting

/-- The truth value that a word stands for, in any case. -/
def truthOfWord? (text : String) : Option Bool :=
  let word := text.toList.map Char.toLower
  if word = "true".toList ∨ word = "on".toList ∨ word = "yes".toList then
    some true
  else if word = "false".toList ∨ word = "off".toList ∨ word = "no".toList then
    some false
  else none

/-- A natural number of 64 bits, with an optional plus. -/
def wordOfText? (text : String) : Option Nat :=
  let digits := match text.toList with
    | '+' :: rest => rest
    | chars => chars
  (readNatural? digits).filter (· < UInt64.size)

/-- The value as a natural number of 64 bits.  Floats are rounded. -/
def word? : Setting → Option Nat
  | .integer number =>
      if 0 ≤ number.toInt then some number.toInt.toNat else none
  | .float number => some (toWord number)
  | .bool truth => some truth.toNat
  | .text word =>
      match truthOfWord? word with
      | some truth => some truth.toNat
      | none => wordOfText? word
  | _ => none

def floatOfTruth (truth : Bool) : Float :=
  if truth then 1.0 else 0.0

def number? : Setting → Option Float
  | .integer number => some (Int64.nearestFloat number)
  | .float number => some number
  | .bool truth => some (floatOfTruth truth)
  | .text word =>
      match truthOfWord? word with
      | some truth => some (floatOfTruth truth)
      | none => readFloat? word.toList
  | _ => none

def optional? {α : Type} (read? : Setting → Option α) :
    Setting → Option (Option α)
  | .nothing => some none
  | value => (read? value).map some

/-- The field of a section with a name and a place in the order of fields. -/
def field? (part : Setting) (name : String) (place : Nat) :
    Option Setting :=
  match part with
  | .table entries => entries.lookup name
  | .list items => items[place]?
  | _ => none

def isSection : Setting → Bool
  | .table _ => true
  | .list _ => true
  | _ => false

/-- Read a field; a missing one has its standard value. -/
def readField? {α : Type} (part : Setting) (name : String) (place : Nat)
    (read? : Setting → Option α) (standard : α) : Option α :=
  match part.field? name place with
  | some value => read? value
  | none => some standard

end Setting

open Setting in
def EvolutionSettings.ofSetting? (part : Setting) : Option EvolutionSettings :=
  if !part.isSection then none
  else do
    let standard := EvolutionSettings.standard
    let populationSize ← part.readField? "population_size" 0 word?
      standard.populationSize
    let chromosomeLength ← part.readField? "chromosome_length" 1 word?
      standard.chromosomeLength
    let generations ← part.readField? "num_generations" 2 word?
      standard.generations
    let crossoverRate ← part.readField? "crossover_rate" 3 number?
      standard.crossoverRate
    let mutationRate ← part.readField? "mutation_rate" 4 number?
      standard.mutationRate
    let targetFitness ← part.readField? "target_fitness" 5
      (optional? number?) standard.targetFitness
    let seed ← part.readField? "seed" 6 (optional? word?) none
    return ⟨populationSize, chromosomeLength, generations, crossoverRate,
      mutationRate, targetFitness, seed.map Nat.toUInt64⟩

open Setting in
def DerivationLimits.ofSetting? (part : Setting) : Option DerivationLimits :=
  if !part.isSection then none
  else do
    let standard := DerivationLimits.standard
    let maxDepth ← part.readField? "max_depth" 0 word? standard.maxDepth
    let maxExpansions ← part.readField? "max_expansions" 1 word?
      standard.maxExpansions
    return ⟨maxDepth, maxExpansions⟩

/-- Settings from a table of sections; a missing section is standard. -/
def Settings.ofSetting? (value : Setting) : Option Settings := do
  let evolution ← value.readField? "evolution" 0 EvolutionSettings.ofSetting?
    EvolutionSettings.standard
  let limits ← value.readField? "grammar" 1 DerivationLimits.ofSetting?
    DerivationLimits.standard
  return ⟨evolution, limits⟩

end GrammaticalEvolution
