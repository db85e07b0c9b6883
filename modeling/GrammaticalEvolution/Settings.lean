import GrammaticalEvolution.Derivation
import GrammaticalEvolution.Population.Breeding

/-!
# Settings

Settings have a section for evolution and one for derivation limits.  Values
outside their ranges are rejected, the first section and its first fault
first.  A rate that is no number lies neither below nor above its range and
passes here.
-/

namespace GrammaticalEvolution

/-- How a population is made and how long it evolves. -/
structure EvolutionSettings where
  populationSize : Nat
  chromosomeLength : Nat
  generations : Nat
  crossoverRate : Float
  mutationRate : Float
  /-- Fitness at which a run stops early. -/
  targetFitness : Option Float
  seed : Option UInt64
deriving DecidableEq

/-- All settings. -/
structure Settings where
  evolution : EvolutionSettings
  limits : DerivationLimits
deriving DecidableEq

/-- Why settings are rejected. -/
inductive SettingsError where
  | populationTooSmall
  | noGenes
  | rateOutside (kind : RateKind)
  | limitZero
  | depthBeyond (depth : Nat)
deriving DecidableEq, Repr

def SettingsError.message : SettingsError → String
  | .populationTooSmall => ErrorText.configuration
      s!"Population size must be at least {minPopulation}"
  | .noGenes => ErrorText.configuration "Chromosome length must be at least 1"
  | .rateOutside kind => ErrorText.configuration
      s!"{kind.name} rate must be between 0 and 1"
  | .limitZero => ErrorText.configuration "Grammar limits must be at least 1"
  | .depthBeyond depth => ErrorText.configuration
      s!"Grammar max_depth must be at most {maxNesting}, got {depth}"

/-- Whether a rate lies below zero or above one. -/
def isOutside (rate : Float) : Bool :=
  rate < 0.0 || 1.0 < rate

namespace EvolutionSettings

def standard : EvolutionSettings :=
  ⟨100, 64, 50, 0.8, 0.05, none, none⟩

def validate (settings : EvolutionSettings) : Except SettingsError Unit :=
  if settings.populationSize < minPopulation then .error .populationTooSmall
  else if settings.chromosomeLength = 0 then .error .noGenes
  else if isOutside settings.mutationRate then .error (.rateOutside .mutation)
  else if isOutside settings.crossoverRate then .error (.rateOutside .crossover)
  else .ok ()

end EvolutionSettings

namespace DerivationLimits

def validate (limits : DerivationLimits) : Except SettingsError Unit :=
  if limits.maxDepth = 0 ∨ limits.maxExpansions = 0 then .error .limitZero
  else if maxNesting < limits.maxDepth then
    .error (.depthBeyond limits.maxDepth)
  else .ok ()

end DerivationLimits

namespace Settings

def standard : Settings :=
  ⟨.standard, .standard⟩

def validate (settings : Settings) : Except SettingsError Unit := do
  settings.evolution.validate
  settings.limits.validate

end Settings

end GrammaticalEvolution
