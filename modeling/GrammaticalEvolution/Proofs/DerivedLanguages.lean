import GrammaticalEvolution.Proofs.DerivedTrees

/-!
# Languages of non-terminals

A language says what may stand in the end where a non-terminal stood.  A tree
fits a production if it results from it by putting something of its language in
place of each non-terminal.  When whatever fits a production belongs to the
language of the non-terminal that it replaces, everything that derivations
yield from a non-terminal belongs to its language, whatever was selected.
-/

namespace GrammaticalEvolution

namespace Derivation

mutual

/-- A tree results from another by putting something of its language in place
of each non-terminal. -/
inductive Fits (symbols : SymbolTable)
    (language : Expression → Expression → Prop) :
    Expression → Expression → Prop where
  | leaf {value : Value}
      (terminal : symbols.isNonTerminal (.atom value) = false) :
      Fits symbols language (.atom value) (.atom value)
  | list {items derived : List Expression}
      (terminal : symbols.isNonTerminal (.list items) = false)
      (each : FitsItems symbols language items derived) :
      Fits symbols language (.list items) (.list derived)
  | word {nonTerminal last : Expression}
      (names : symbols.isNonTerminal nonTerminal = true)
      (belongs : language nonTerminal last) :
      Fits symbols language nonTerminal last

/-- List counterpart of `Fits`. -/
inductive FitsItems (symbols : SymbolTable)
    (language : Expression → Expression → Prop) :
    List Expression → List Expression → Prop where
  | nil : FitsItems symbols language [] []
  | cons {item derived : Expression} {items others : List Expression}
      (head : Fits symbols language item derived)
      (tail : FitsItems symbols language items others) :
      FitsItems symbols language (item :: items) (derived :: others)

end

section Languages

variable {symbols : SymbolTable} {language : Expression → Expression → Prop}

theorem Fits.belongs {nonTerminal last : Expression}
    (fits : Fits symbols language nonTerminal last)
    (names : symbols.isNonTerminal nonTerminal = true) :
    language nonTerminal last := by
  cases fits with
  | leaf terminal => exact nomatch names.symm.trans terminal
  | list terminal => exact nomatch names.symm.trans terminal
  | word _ belongs => exact belongs

theorem Fits.eq_of_terminal {value : Value} {last : Expression}
    (fits : Fits symbols language (.atom value) last)
    (terminal : symbols.isNonTerminal (.atom value) = false) :
    last = .atom value := by
  cases fits with
  | leaf => rfl
  | word names => exact nomatch names.symm.trans terminal

theorem Fits.items {items : List Expression} {last : Expression}
    (fits : Fits symbols language (.list items) last)
    (terminal : symbols.isNonTerminal (.list items) = false) :
    ∃ derived, last = .list derived ∧
      FitsItems symbols language items derived := by
  cases fits with
  | list _ each => exact ⟨_, rfl, each⟩
  | word names => exact nomatch names.symm.trans terminal

/-- Whatever fits a production belongs to the language of the non-terminal that
the production replaces. -/
def Respects (symbols : SymbolTable)
    (language : Expression → Expression → Prop) : Prop :=
  ∀ nonTerminal gene production last,
    symbols.isNonTerminal nonTerminal = true →
    symbols.expand nonTerminal gene = .ok production →
    Fits symbols language production last → language nonTerminal last

mutual

theorem Yields.fits (respects : Respects symbols language)
    {room count : Nat} {tree last : Expression} :
    Yields symbols room count tree last → Fits symbols language tree last
  | .leaf terminal => .leaf terminal
  | .list terminal each => .list terminal (YieldsItems.fits respects each)
  | .expansion names expanded derived => by
      have inner := Yields.fits respects derived
      exact .word names (respects _ _ _ _ names expanded inner)

/-- List counterpart of `Yields.fits`. -/
theorem YieldsItems.fits (respects : Respects symbols language)
    {room count : Nat} {items derived : List Expression} :
    YieldsItems symbols room count items derived →
    FitsItems symbols language items derived
  | .nil => .nil
  | .cons head tail =>
      .cons (Yields.fits respects head) (YieldsItems.fits respects tail)

end

/-- What is yielded from a non-terminal belongs to its language. -/
theorem Yields.belongs (respects : Respects symbols language)
    {room count : Nat} {nonTerminal last : Expression}
    (yields : Yields symbols room count nonTerminal last)
    (names : symbols.isNonTerminal nonTerminal = true) :
    language nonTerminal last :=
  (yields.fits respects).belongs names

end Languages

end Derivation

end GrammaticalEvolution
