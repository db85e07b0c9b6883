import GrammaticalEvolution.Evolution
import GrammaticalEvolution.Random.Seeded
import GrammaticalEvolution.SemanticMapper
import GrammaticalEvolution.Settings.Store

/-!
# Demonstration

Arithmetic expressions over the digits evolve towards a number.  The fitness of
an expression is the negated distance of its value from that number, so the
target fitness is zero unless the settings give another one.
-/

namespace GrammaticalEvolution.Demonstration

def goal : Float := 42.0

/-- Fitness of what has no numeric value. -/
def failureFitness : Float := -1.0e6

def phrase (names : List String) : Expression :=
  .list (names.map .symbol)

/-- Nested and flat calls of the four operations on digits, or a digit. -/
def grammar : Grammar :=
  (Grammar.ofStart "exp")
    |>.withRule "exp"
      [phrase ["op", "exp", "exp"], phrase ["op", "var", "var"],
        .symbol "var"]
    |>.withRule "op"
      (["add", "subtract", "multiply", "divide"].map .symbol)
    |>.withRule "var"
      ((List.range 10).map fun digit => .integer (Int64.ofNat digit))

def closeness (_ : Expression) (outcome : Outcome) : Float :=
  match outcome.toOption.bind Value.toFloat? with
  | some number => -(number - goal).abs
  | none => failureFitness

def mapper (limits : DerivationLimits) : SemanticMapper :=
  { SemanticMapper.ofScore grammar.symbols Evaluator.arithmetic closeness with
    limits := limits
    failureFitness := failureFitness }

/-- The part of the program that its own notes come from. -/
def target : String := "gacore"

/-- A path with the usual ending.  It is added to the last part, after which
separators and points of their own do not count; a path that leads upwards has
no last part. -/
def withEnding? (path : String) : Option String :=
  let parts := ((path.splitOn "/").reverse.dropWhile
    fun part => part == "" || part == ".").reverse
  match parts.getLast? with
  | none => none
  | some last =>
      if last = ".." then none
      else some (String.intercalate "/" parts ++ ".toml")

/-- The text of a named file, or of the file with the usual ending. -/
def findFile (files : String → Option String) (name : String) :
    Option String :=
  (files name).or ((withEnding? name).bind files)

/-- The settings that the first argument names, or the standard ones. -/
def loadSettings (arguments : List String) (files : String → Option String)
    (environment : Environment) (order : LayerOrder) :
    Journaled (Except String Settings) :=
  match arguments with
  | [] => pure (.ok SettingsStore.standard.settings)
  | name :: _ => do
      let (result, store) ← SettingsStore.standard.load name
        (findFile files name) environment order
      match result with
      | .ok () => return .ok store.settings
      | .error _ => return .error ("Failed to load configuration from " ++ name)

def noteResult (result : RunResult Expression) : Journaled Unit :=
  match result.bestPhenotype with
  | some expression =>
      let fitness := Decimal.writePlaces 4 result.bestFitness
      let reached := truthText result.reachedTarget
      .note .info target
        (s!"Best after {result.generations} generations: " ++
          s!"{expression.display} (fitness {fitness}, " ++
          s!"target reached: {reached})")
  | none => .note .warn target "No individual could be decoded"

/-- Evolve by the given settings.  Without a seed the run draws from the given
source. -/
def evolve (settings : Settings) (unseeded : SeededWords) :
    Journaled (Except String Unit) := do
  let evolution := { settings.evolution with
    targetFitness := some (settings.evolution.targetFitness.getD 0.0) }
  match grammar.validate with
  | .error _ => return .error "Invalid grammar"
  | .ok () =>
      let goalText := Decimal.Layout.plain.write goal
      .note .info target
        (s!"Evolving {evolution.populationSize} individuals" ++
          s!" for up to {evolution.generations} generations towards {goalText}")
      let source := (evolution.seed.map SeededWords.ofSeed).getD unseeded
      match ← Evolution.create evolution (mapper settings.limits).fitness
          source with
      | .error error => return .error error.message
      | .ok prepared =>
          let run ← prepared.run .noting
          match run.result with
          | .error _ => return .error "Evolution failed"
          | .ok result =>
              noteResult result
              run.population.glance
              return .ok ()

/-- The whole demonstration: what is noted, and the reason of a failure. -/
def run (arguments : List String) (files : String → Option String)
    (environment : Environment) (order : LayerOrder) (unseeded : SeededWords) :
    Journaled (Except String Unit) := do
  match ← loadSettings arguments files environment order with
  | .error reason => return .error reason
  | .ok settings => evolve settings unseeded

end GrammaticalEvolution.Demonstration
