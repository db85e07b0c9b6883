/-!
# Texts of errors

Errors of several parts of the library read alike.
-/

namespace GrammaticalEvolution.ErrorText

def configuration (detail : String) : String :=
  "Configuration error: " ++ detail

def selection (requested available : Nat) : String :=
  s!"Cannot select {requested} from population of {available}"

def chromosomeLength (expected actual : Nat) : String :=
  s!"Chromosome length mismatch: expected {expected}, got {actual}"

def missingExpression (index available : Nat) : String :=
  s!"No expression on line {index} ({available} lines available)"

end GrammaticalEvolution.ErrorText
