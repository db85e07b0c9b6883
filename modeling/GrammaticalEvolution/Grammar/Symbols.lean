import GrammaticalEvolution.Chromosome
import GrammaticalEvolution.ErrorText
import GrammaticalEvolution.Operation

/-!
# Symbol tables

A derivation needs to know where it starts, which expressions are
non-terminals, and what a selector makes of a non-terminal.  Without selectors
a table may make choices of its own; by default it draws a selector.
-/

namespace GrammaticalEvolution

/-- What errors from outside the library come from. -/
inductive ErrorOrigin where
  | io
  | serde
  | config
  | toml
deriving DecidableEq, Repr

def ErrorOrigin.name : ErrorOrigin → String
  | .io => "IO"
  | .serde => "Serde"
  | .config => "Config"
  | .toml => "TOML"

/-- Why a derivation has no result.  A symbol table that is no grammar may pass
on any error of the library. -/
inductive GrammarError where
  | emptySelectors
  | unknownNonTerminal (symbol : String)
  | configuration (detail : String)
  | recursionLimit (depth : Nat)
  | selection (requested available : Nat)
  | chromosomeLength (expected actual : Nat)
  | missingExpression (index available : Nat)
  | evaluation (error : EvaluationError)
  | external (origin : ErrorOrigin) (detail : String)
deriving DecidableEq

def GrammarError.message : GrammarError → String
  | .emptySelectors => "Selector sequence must contain at least one value"
  | .unknownNonTerminal symbol => "Unknown non-terminal: " ++ symbol
  | .configuration detail => ErrorText.configuration detail
  | .recursionLimit depth => s!"Recursion limit reached at depth {depth}"
  | .selection requested available => ErrorText.selection requested available
  | .chromosomeLength expected actual =>
      ErrorText.chromosomeLength expected actual
  | .missingExpression index available =>
      ErrorText.missingExpression index available
  | .evaluation error => "Evaluation error: " ++ error.message
  | .external origin detail => origin.name ++ " error: " ++ detail

/-- A rule of a grammar has no alternatives. -/
def GrammarError.noAlternatives (rule : String) : GrammarError :=
  .configuration s!"Rule {rule} has no alternatives"

/-- What derivations by selectors know of their symbols. -/
structure SymbolTable where
  start : Expression
  isNonTerminal : Expression → Bool
  expand : Expression → Gene → Except GrammarError Expression

/-- A symbol table that also expands without selectors, from a random
source. -/
structure FreeSymbolTable (ρ : Type) extends SymbolTable where
  expandFreely : Expression → StateM ρ (Except GrammarError Expression)

/-- Expand without guidance by a drawn selector. -/
def SymbolTable.drawing {ρ : Type} [WordSource ρ] (symbols : SymbolTable) :
    FreeSymbolTable ρ :=
  { symbols with
    expandFreely := fun nonTerminal => do
      let selector ← Random.drawGene
      return symbols.expand nonTerminal selector }

end GrammaticalEvolution
