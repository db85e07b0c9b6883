import GrammaticalEvolution.Grammar.Symbols

/-!
# Grammars

A grammar names its start symbol and lists rules, each a name with ordered
alternatives.  A symbol that names a rule is a non-terminal, everything else is
a terminal, and a selector picks an alternative by its remainder.
-/

namespace GrammaticalEvolution

/-- Named rules; a name has the alternatives of its first entry. -/
structure Grammar where
  startName : String
  rules : List (String × List Expression)
deriving Inhabited

namespace Grammar

def ofStart (startName : String) : Grammar :=
  ⟨startName, []⟩

/-- Add a rule in place of any other of its name. -/
def withRule (grammar : Grammar) (name : String)
    (alternatives : List Expression) : Grammar :=
  ⟨grammar.startName, (name, alternatives) ::
    grammar.rules.filter (fun rule => rule.1 != name)⟩

def alternatives? (grammar : Grammar) (name : String) :
    Option (List Expression) :=
  grammar.rules.lookup name

/-- The rule that a symbol names, with its alternatives. -/
def ruleOf? (grammar : Grammar) : Expression → Option (String × List Expression)
  | .atom (.symbol name) =>
      (grammar.alternatives? name).map fun alternatives => (name, alternatives)
  | _ => none

def isNonTerminal (grammar : Grammar) (symbol : Expression) : Bool :=
  (grammar.ruleOf? symbol).isSome

/-- The alternative of a non-terminal that a selector picks. -/
def expand (grammar : Grammar) (nonTerminal : Expression) (selector : Gene) :
    Except GrammarError Expression :=
  match grammar.ruleOf? nonTerminal with
  | none => .error (.unknownNonTerminal nonTerminal.display)
  | some (name, alternatives) =>
      match alternatives[selector.toNat % alternatives.length]? with
      | some alternative => .ok alternative
      | none => .error (.noAlternatives name)

/-- Check that the start symbol has a rule and every rule an alternative. -/
def validate (grammar : Grammar) : Except GrammarError Unit :=
  match grammar.alternatives? grammar.startName with
  | none => .error (.unknownNonTerminal grammar.startName)
  | some _ =>
      match grammar.rules.find? (fun rule => rule.2.isEmpty) with
      | some rule => .error (.noAlternatives rule.1)
      | none => .ok ()

def symbols (grammar : Grammar) : SymbolTable :=
  { start := .symbol grammar.startName
    isNonTerminal := grammar.isNonTerminal
    expand := grammar.expand }

end Grammar

end GrammaticalEvolution
