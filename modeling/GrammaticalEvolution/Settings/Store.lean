import GrammaticalEvolution.Decimal.Layout
import GrammaticalEvolution.Journal
import GrammaticalEvolution.Settings.Environment
import GrammaticalEvolution.Settings.Fields
import GrammaticalEvolution.Toml.Document

/-!
# The store of settings

A store holds the settings in force.  They are replaced only by settings that
pass validation: by an update, or by loading a text with the environment laid
over it.  Loading starts from the standard values, never from those in force.
-/

namespace GrammaticalEvolution

open Decimal

/-- The orders that the entries of a file and of the environment come up in. -/
structure LayerOrder where
  file : SourceOrder
  environment : SourceOrder

def LayerOrder.asGiven : LayerOrder :=
  ⟨.asGiven, .asGiven⟩

/-- Why settings cannot be loaded: the source cannot be read or does not hold
settings, or they are rejected. -/
inductive LoadError where
  | unreadable
  | rejected (error : SettingsError)
deriving DecidableEq

/-- Why settings cannot be saved: an integer is too large for the text, or the
place that the text is meant for does not take it. -/
inductive SaveError where
  | tooLarge
  | unwritable
deriving DecidableEq

namespace Settings

/-- What a file makes by itself. -/
def ofFile (order : LayerOrder) (file : Entries) : Setting :=
  .ofSource order.file file

/-- What a file and the environment make together. -/
def layered (order : LayerOrder) (file : Entries)
    (environment : Environment) : Setting :=
  (ofFile order file).laySource order.environment environment.settings

/-- Load settings from the text of a file, if there is one, and the environment.
A mark in front of the file is left out, and the text may have one more. -/
def load (text? : Option String) (environment : Environment)
    (order : LayerOrder) : Except LoadError Settings := do
  let chars? := text?.map fun text => Toml.dropMark text.toList
  let file ← match chars?.bind Toml.read? with
    | some entries => .ok entries
    | none => .error .unreadable
  match Settings.ofSetting? (layered order file environment) with
  | none => .error .unreadable
  | some settings =>
      settings.validate.mapError .rejected
      return settings

/-- Largest integer that a settings text can hold. -/
def largestInteger : Nat := Int64.maxValue.toNatClampNeg

/-- A line that sets an integer, unless it is too large. -/
def integerLine? (name : String) (number : Nat) : Option String :=
  if number ≤ largestInteger then some s!"{name} = {number}\n" else none

def floatLine (name : String) (number : Float) : String :=
  name ++ " = " ++ Layout.settings.write number ++ "\n"

/-- The text of all settings.  Values that are not set have no line. -/
def write? (settings : Settings) : Option String := do
  let evolution := settings.evolution
  let populationSize ← integerLine? "population_size" evolution.populationSize
  let chromosomeLength ← integerLine? "chromosome_length"
    evolution.chromosomeLength
  let generations ← integerLine? "num_generations" evolution.generations
  let crossoverRate := floatLine "crossover_rate" evolution.crossoverRate
  let mutationRate := floatLine "mutation_rate" evolution.mutationRate
  let targetFitness := match evolution.targetFitness with
    | some target => floatLine "target_fitness" target
    | none => ""
  let seed ← match evolution.seed with
    | some seed => integerLine? "seed" seed.toNat
    | none => some ""
  let maxDepth ← integerLine? "max_depth" settings.limits.maxDepth
  let maxExpansions ← integerLine? "max_expansions"
    settings.limits.maxExpansions
  return "[evolution]\n" ++ populationSize ++ chromosomeLength ++
    generations ++ crossoverRate ++ mutationRate ++ targetFitness ++ seed ++
    "\n[grammar]\n" ++ maxDepth ++ maxExpansions

end Settings

/-- The settings in force. -/
structure SettingsStore where
  settings : Settings

namespace SettingsStore

def standard : SettingsStore :=
  ⟨.standard⟩

/-- Apply a change and keep its result if it is valid. -/
def update (store : SettingsStore) (change : Settings → Settings) :
    Except SettingsError Unit × SettingsStore :=
  let changed := change store.settings
  match changed.validate with
  | .ok () => (.ok (), ⟨changed⟩)
  | .error error => (.error error, store)

/-- The part of the library that notes about settings come from. -/
def target : String := "gacore::config::manager"

/-- Load settings from a named text, and keep them if they are valid. -/
def load (store : SettingsStore) (name : String) (text? : Option String)
    (environment : Environment) (order : LayerOrder) :
    Journaled (Except LoadError Unit × SettingsStore) :=
  match Settings.load text? environment order with
  | .ok settings => do
      .note .debug target ("Loaded configuration from " ++ name)
      return (.ok (), ⟨settings⟩)
  | .error error => pure (.error error, store)

/-- The text to save the settings in force with, for a place that can be written
or not.  There is no text to write before all of it is known. -/
def save (store : SettingsStore) (writable : Bool) : Except SaveError String :=
  match store.settings.write? with
  | none => .error .tooLarge
  | some text => if writable then .ok text else .error .unwritable

end SettingsStore

end GrammaticalEvolution
