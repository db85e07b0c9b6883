import GrammaticalEvolution.Chromosome.Cursor
import GrammaticalEvolution.Grammar
import GrammaticalEvolution.Journal

/-!
# Derivations

A derivation replaces non-terminals by their productions, depth first and from
left to right, until none is left.  Two limits bound it: how deep productions
may stand within one another and how many expansions are made altogether.
Guided derivations take their selectors from a chromosome and recover from a
broken limit; free ones draw and do not.
-/

namespace GrammaticalEvolution

/-- Bounds of a derivation.  The depth counts up to `maxNesting` only. -/
structure DerivationLimits where
  maxDepth : Nat
  maxExpansions : Nat
deriving DecidableEq, Repr

namespace DerivationLimits

def standard : DerivationLimits :=
  ⟨256, 65536⟩

/-- The depth that counts. -/
def depth (limits : DerivationLimits) : Nat :=
  min limits.maxDepth maxNesting

end DerivationLimits

/-- Expansions made so far and the state that productions are chosen from. -/
structure DerivationState (σ : Type) where
  expansions : Nat
  choices : σ

/-- A step of a derivation.  Expansions and choices made before an error
remain. -/
abbrev Deriving (σ : Type) :=
  ExceptT GrammarError (StateM (DerivationState σ))

namespace Derivation

variable {σ : Type}

/-- How a production is chosen for a non-terminal. -/
abbrev Produce (σ : Type) :=
  Expression → StateM σ (Except GrammarError Expression)

/-- Count one more expansion, unless the limit on them is reached. -/
def countExpansion (limits : DerivationLimits) (depth : Nat) :
    Deriving σ Unit := do
  let state ← get
  if limits.maxExpansions ≤ state.expansions then
    throw (.recursionLimit depth)
  set { state with expansions := state.expansions + 1 }

def choose (produce : Produce σ) (nonTerminal : Expression) :
    Deriving σ Expression := do
  let state ← get
  let (production, choices) := (produce nonTerminal).run state.choices
  set { state with choices }
  match production with
  | .ok expression => return expression
  | .error error => throw error

mutual

/-- Derive every non-terminal of a tree; what is no non-terminal keeps its
shape. -/
def walk (isNonTerminal : Expression → Bool)
    (descend : Expression → Deriving σ Expression) :
    Expression → Deriving σ Expression
  | .atom value =>
      if isNonTerminal (.atom value) then descend (.atom value)
      else return .atom value
  | .list items =>
      if isNonTerminal (.list items) then descend (.list items)
      else do
        let derived ← walkItems isNonTerminal descend items
        return .list derived

/-- Derive the items of a list from left to right. -/
def walkItems (isNonTerminal : Expression → Bool)
    (descend : Expression → Deriving σ Expression) :
    List Expression → Deriving σ (List Expression)
  | [] => return []
  | item :: items => do
      let derived ← walk isNonTerminal descend item
      let others ← walkItems isNonTerminal descend items
      return derived :: others

end

/-- Replace a non-terminal by its production, derived in turn, with room for
that many productions within one another. -/
def descend (isNonTerminal : Expression → Bool) (produce : Produce σ)
    (limits : DerivationLimits) :
    (room : Nat) → Expression → Deriving σ Expression
  | 0, _ => throw (.recursionLimit limits.depth)
  | room + 1, nonTerminal => do
      countExpansion limits (limits.depth - (room + 1))
      let production ← choose produce nonTerminal
      walk isNonTerminal (descend isNonTerminal produce limits room) production

def derive (isNonTerminal : Expression → Bool) (produce : Produce σ)
    (limits : DerivationLimits) (start : Expression) :
    Deriving σ Expression :=
  walk isNonTerminal (descend isNonTerminal produce limits limits.depth) start

/-- The result of a derivation and the choices left after it. -/
def run (isNonTerminal : Expression → Bool) (produce : Produce σ)
    (limits : DerivationLimits) (start : Expression) (choices : σ) :
    Except GrammarError Expression × σ :=
  let (result, state) := (derive isNonTerminal produce limits start).run
    ⟨0, choices⟩
  (result, state.choices)

/-- Derive without guidance.  The result is a list. -/
def free {ρ : Type} (symbols : FreeSymbolTable ρ) (limits : DerivationLimits)
    (start : Expression) (source : ρ) :
    Except GrammarError Expression × ρ :=
  let (result, source) :=
    run symbols.isNonTerminal symbols.expandFreely limits start source
  (result.map Expression.asList, source)

def produceGuided (symbols : SymbolTable) : Produce Cursor :=
  fun nonTerminal cursor =>
    let (gene, next) := cursor.read
    (symbols.expand nonTerminal gene, next)

/-- Derive from the start symbol with the genes of a cursor. -/
def runGuided (symbols : SymbolTable) (limits : DerivationLimits)
    (cursor : Cursor) : Except GrammarError Expression × Cursor :=
  run symbols.isNonTerminal (produceGuided symbols) limits symbols.start cursor

/-- What a derivation that breaks a limit is replaced by. -/
def fallback : Expression :=
  .list [.integer 0]

/-- The part of the library that notes about derivations come from. -/
def target : String := "gacore::engines::generation::grammar"

/-- What a guided derivation yields, given how it ended. -/
def settle : Except GrammarError Expression → Except GrammarError Expression
  | .ok expression => .ok expression.asList
  | .error (.recursionLimit _) => .ok fallback
  | .error error => .error error

/-- Derive with the genes of a chromosome.  The result is a list. -/
def guided (symbols : SymbolTable) (limits : DerivationLimits)
    (genes : Chromosome) : Except GrammarError Expression :=
  match Cursor.ofGenes? genes with
  | none => .error .emptySelectors
  | some cursor => settle (runGuided symbols limits cursor).1

/-- What is noted about the end of a guided derivation. -/
def noteEnd (genes : Chromosome) (cursor : Cursor) :
    Except GrammarError Expression → Journaled Unit
  | .ok expression =>
      let nodes := expression.asList.nodeCount
      let wrapped := truthText cursor.hasWrapped
      .note .trace target
        (s!"Built {nodes} nodes from {cursor.consumed} selector reads " ++
          s!"(wrapped: {wrapped})")
  | .error (.recursionLimit depth) =>
      .note .debug target
        (s!"Runaway recursion at depth {depth} " ++
          s!"({genes.length} selectors), substituting [0]")
  | .error _ => pure ()

/-- Derive with the genes of a chromosome and note how it went. -/
def reportGuided (symbols : SymbolTable) (limits : DerivationLimits)
    (genes : Chromosome) : Journaled (Except GrammarError Expression) :=
  match Cursor.ofGenes? genes with
  | none => pure (.error .emptySelectors)
  | some cursor => do
      let (result, last) := runGuided symbols limits cursor
      noteEnd genes last result
      return settle result

/-- Note that a depth beyond the widest one does not count. -/
def noteClamp (limits : DerivationLimits) : Journaled Unit :=
  if maxNesting < limits.maxDepth then
    .note .debug target
      s!"Grammar depth {limits.maxDepth} clamped to {maxNesting}"
  else pure ()

@[simp] theorem value_reportGuided (symbols : SymbolTable)
    (limits : DerivationLimits) (genes : Chromosome) :
    (reportGuided symbols limits genes).value =
      guided symbols limits genes := by
  unfold reportGuided guided
  cases Cursor.ofGenes? genes <;> rfl

end Derivation

end GrammaticalEvolution
