import GrammaticalEvolution.Derivation
import GrammaticalEvolution.Evaluation
import GrammaticalEvolution.Individual

/-!
# Fitness by meaning

A semantic mapper turns a grammar, an evaluator and a score into a fitness
function.  The chromosome guides a derivation, the derived expression is
evaluated, and the score sees both.  The expression is the phenotype.
-/

namespace GrammaticalEvolution

/-- The parts of a fitness function that goes by meaning. -/
structure SemanticMapper where
  symbols : SymbolTable
  evaluator : Evaluator
  limits : DerivationLimits
  bindings : List (String × Value)
  score : Expression → Outcome → Float
  /-- Fitness of a chromosome that no expression is derived from. -/
  failureFitness : Float

namespace SemanticMapper

/-- A mapper with standard limits, without bindings and with the least
fitness for failures. -/
def ofScore (symbols : SymbolTable) (evaluator : Evaluator)
    (score : Expression → Outcome → Float) : SemanticMapper :=
  ⟨symbols, evaluator, .standard, [], score, -(1.0 / 0.0)⟩

/-- The part of the library that notes about mappings come from. -/
def target : String := "gacore::engines::generation::semantic_mapper"

/-- The expression that a chromosome stands for. -/
def decode (mapper : SemanticMapper) (chromosome : Chromosome) :
    Except GrammarError Expression :=
  Derivation.guided mapper.symbols mapper.limits chromosome

/-- The expression that a chromosome stands for, with what is noted about its
derivation. -/
def reportDecode (mapper : SemanticMapper) (chromosome : Chromosome) :
    Journaled (Except GrammarError Expression) := do
  Derivation.noteClamp mapper.limits
  Derivation.reportGuided mapper.symbols mapper.limits chromosome

/-- The outcome of an expression.  Without bindings it is evaluated as one
without variables. -/
def evaluate (mapper : SemanticMapper) (expression : Expression) : Outcome :=
  if mapper.bindings.isEmpty then mapper.evaluator.evaluate expression
  else mapper.evaluator.evaluateWith (.ofBindings mapper.bindings) expression

/-- The outcome of an expression, with what is noted about its evaluation. -/
def reportEvaluate (mapper : SemanticMapper) (expression : Expression) :
    Journaled Outcome :=
  if mapper.bindings.isEmpty then mapper.evaluator.report .nothing expression
  else mapper.evaluator.report (.ofBindings mapper.bindings) expression

/-- An evaluation without bindings is no special case. -/
theorem evaluate_eq (mapper : SemanticMapper) (expression : Expression) :
    mapper.evaluate expression =
      mapper.evaluator.evaluateWith (.ofBindings mapper.bindings)
        expression := by
  unfold evaluate
  split
  · next empty =>
      rw [List.isEmpty_iff.mp empty]
      rfl
  · rfl

@[simp] theorem value_reportEvaluate (mapper : SemanticMapper)
    (expression : Expression) :
    (mapper.reportEvaluate expression).value = mapper.evaluate expression := by
  unfold reportEvaluate evaluate
  split <;> exact Evaluator.value_report _ _ _

def noteOutcome (expression : Expression) : Outcome → Journaled Unit
  | .ok _ => pure ()
  | .error error => .note .trace target
      ("Evaluation of " ++ expression.display ++ " failed: " ++ error.message)

def assess (mapper : SemanticMapper) (chromosome : Chromosome) :
    Assessment Expression :=
  match mapper.decode chromosome with
  | .error _ => ⟨mapper.failureFitness, []⟩
  | .ok expression =>
      ⟨mapper.score expression (mapper.evaluate expression), [expression]⟩

def fitness (mapper : SemanticMapper) : FitnessFunction Expression :=
  fun chromosome => do
    match ← mapper.reportDecode chromosome with
    | .error error =>
        .note .warn target ("Failed to decode chromosome: " ++ error.message)
        return ⟨mapper.failureFitness, []⟩
    | .ok expression =>
        let outcome ← mapper.reportEvaluate expression
        noteOutcome expression outcome
        return ⟨mapper.score expression outcome, [expression]⟩

@[simp] theorem value_fitness (mapper : SemanticMapper)
    (chromosome : Chromosome) :
    (mapper.fitness chromosome).value = mapper.assess chromosome := by
  unfold fitness assess reportDecode decode
  simp only [Journaled.value_bind, Derivation.value_reportGuided]
  cases Derivation.guided mapper.symbols mapper.limits chromosome <;> simp

end SemanticMapper

end GrammaticalEvolution
