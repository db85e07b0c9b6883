import GrammaticalEvolution.Demonstration
import GrammaticalEvolution.Proofs.DerivationBounds
import GrammaticalEvolution.Proofs.DerivedLanguages

/-!
# Terms over the digits

The chromosomes of the demonstration stand for terms that call the four
operations on digits.  The rules of its grammar are sorts: one of terms, one of
the names of operations and one of digits.  A term evaluates to a number unless
a call in it violates a constraint of its operation, so that the fitness of a
chromosome is always that of the term it stands for.
-/

namespace GrammaticalEvolution.Demonstration

open GrammaticalEvolution.Derivation

def operationNames : List String :=
  ["add", "subtract", "multiply", "divide"]

/-- A digit, or a call of an operation on two terms. -/
inductive DigitTerm : Expression → Prop where
  | digit {number : Nat} (small : number < 10) :
      DigitTerm (.integer (Int64.ofNat number))
  | call {name : String} {left right : Expression}
      (named : name ∈ operationNames) (first : DigitTerm left)
      (second : DigitTerm right) :
      DigitTerm (.list [.symbol name, left, right])

/-! ### The sorts of the grammar -/

def ruleNames : List String :=
  ["exp", "op", "var"]

theorem isNonTerminal_list (items : List Expression) :
    grammar.symbols.isNonTerminal (.list items) = false :=
  rfl

theorem isNonTerminal_rule {name : String} (rule : name ∈ ruleNames) :
    grammar.symbols.isNonTerminal (.symbol name) = true := by
  simp only [ruleNames, List.mem_cons, List.not_mem_nil, or_false] at rule
  rcases rule with rfl | rfl | rfl <;> decide +kernel

theorem isNonTerminal_integer (number : Int64) :
    grammar.symbols.isNonTerminal (.integer number) = false :=
  rfl

theorem isNonTerminal_operation {name : String}
    (named : name ∈ operationNames) :
    grammar.symbols.isNonTerminal (.symbol name) = false := by
  simp only [operationNames, List.mem_cons, List.not_mem_nil, or_false]
    at named
  rcases named with rfl | rfl | rfl | rfl <;> decide +kernel

/-- What may stand in the end where a rule of the grammar is named. -/
def Belongs (nonTerminal last : Expression) : Prop :=
  (nonTerminal = .symbol "exp" ∧ DigitTerm last) ∨
  (nonTerminal = .symbol "op" ∧ ∃ name ∈ operationNames,
    last = .symbol name) ∨
  (nonTerminal = .symbol "var" ∧ ∃ number < 10,
    last = .integer (Int64.ofNat number))

theorem belongs_exp {last : Expression}
    (belongs : Belongs (.symbol "exp") last) : DigitTerm last := by
  simpa [Belongs, Expression.symbol] using belongs

theorem belongs_op {last : Expression}
    (belongs : Belongs (.symbol "op") last) :
    ∃ name ∈ operationNames, last = .symbol name := by
  simpa [Belongs, Expression.symbol] using belongs

theorem belongs_var {last : Expression}
    (belongs : Belongs (.symbol "var") last) :
    ∃ number < 10, last = .integer (Int64.ofNat number) := by
  simpa [Belongs, Expression.symbol] using belongs

section Sorts

variable {last : Expression}

theorem digitTerm_of_fits_exp
    (fits : Fits grammar.symbols Belongs (.symbol "exp") last) :
    DigitTerm last :=
  belongs_exp (fits.belongs (isNonTerminal_rule (by decide)))

theorem digitTerm_of_fits_var
    (fits : Fits grammar.symbols Belongs (.symbol "var") last) :
    DigitTerm last := by
  obtain ⟨number, small, rfl⟩ :=
    belongs_var (fits.belongs (isNonTerminal_rule (by decide)))
  exact .digit small

/-- Nested and flat calls differ in the sort of their operands only. -/
theorem digitTerm_of_fits_call {operand : String}
    (operands : ∀ last, Fits grammar.symbols Belongs (.symbol operand) last →
      DigitTerm last)
    (fits : Fits grammar.symbols Belongs (phrase ["op", operand, operand])
      last) :
    DigitTerm last := by
  obtain ⟨derived, rfl, each⟩ := fits.items (isNonTerminal_list _)
  rcases each with _ | ⟨head, _ | ⟨left, _ | ⟨right, _ | _⟩⟩⟩
  obtain ⟨name, named, rfl⟩ :=
    belongs_op (head.belongs (isNonTerminal_rule (by decide)))
  exact .call named (operands _ left) (operands _ right)

end Sorts

theorem respects_belongs : Respects grammar.symbols Belongs := by
  intro nonTerminal gene production last _ expanded fits
  obtain ⟨name, alternatives, rfl, rule, member⟩ :=
    Grammar.mem_of_expand expanded
  have rules : grammar.rules =
      [("var", (List.range 10).map fun digit => .integer (Int64.ofNat digit)),
        ("op", operationNames.map .symbol),
        ("exp", [phrase ["op", "exp", "exp"], phrase ["op", "var", "var"],
          .symbol "var"])] := rfl
  simp only [rules, List.mem_cons, Prod.mk.injEq, List.not_mem_nil, or_false]
    at rule
  rcases rule with ⟨rfl, rfl⟩ | ⟨rfl, rfl⟩ | ⟨rfl, rfl⟩
  · obtain ⟨number, small, rfl⟩ := List.mem_map.mp member
    have same := fits.eq_of_terminal (isNonTerminal_integer _)
    exact .inr (.inr ⟨rfl, number, List.mem_range.mp small, same⟩)
  · obtain ⟨name, named, rfl⟩ := List.mem_map.mp member
    have same := fits.eq_of_terminal (isNonTerminal_operation named)
    exact .inr (.inl ⟨rfl, name, named, same⟩)
  · refine .inl ⟨rfl, ?_⟩
    simp only [List.mem_cons, List.not_mem_nil, or_false] at member
    rcases member with rfl | rfl | rfl
    · exact digitTerm_of_fits_call (fun _ => digitTerm_of_fits_exp) fits
    · exact digitTerm_of_fits_call (fun _ => digitTerm_of_fits_var) fits
    · exact digitTerm_of_fits_var fits

/-- The derivations of the grammar yield terms, whatever is selected. -/
theorem digitTerm_of_yields {room count : Nat} {tree : Expression}
    (yields : Yields grammar.symbols room count (.symbol grammar.startName)
      tree) :
    DigitTerm tree :=
  belongs_exp (yields.belongs respects_belongs
    (isNonTerminal_rule (by decide)))

/-! ### The values of terms -/

section Values

open Arithmetic

variable {resolver : Resolver}

/-- A stock operation is found by its name and executed on two arguments. -/
theorem exists_operation {name : String} (named : name ∈ operationNames) :
    ∃ operation ∈ stock, operation.name = name ∧ ∀ left right,
      (Evaluator.ofOperations table).apply resolver name [left, right] =
        (operation.execute [left, right]).mapError .raised := by
  simp only [operationNames, List.mem_cons, List.not_mem_nil, or_false]
    at named
  rcases named with rfl | rfl | rfl | rfl
  · exact ⟨add, by simp [stock], rfl, fun _ _ => rfl⟩
  · exact ⟨subtract, by simp [stock], rfl, fun _ _ => rfl⟩
  · exact ⟨multiply, by simp [stock], rfl, fun _ _ => rfl⟩
  · exact ⟨divide, by simp [stock], rfl, fun _ _ => rfl⟩

/-- A result of arithmetic, wherever it failed. -/
def ComputedAt (result : Except EvaluationFailure Value) : Prop :=
  Computed (result.mapError EvaluationFailure.error)

theorem computedAt_raised {outcome : Outcome} (computed : Computed outcome) :
    ComputedAt (outcome.mapError .raised) := by
  cases outcome with
  | ok value => exact computed
  | error error => exact computed

theorem computedAt_apply {name : String} (named : name ∈ operationNames)
    {left right : Value} (first : left.isNumber = true)
    (second : right.isNumber = true) :
    ComputedAt ((Evaluator.ofOperations table).apply resolver name
      [left, right]) := by
  obtain ⟨operation, member, _, applied⟩ := exists_operation named
  rw [applied]
  exact computedAt_raised (computed_execute member first second)

/-- What arithmetic comes to is a number or a violated constraint. -/
theorem computedAt_cases {result : Except EvaluationFailure Value}
    (computed : ComputedAt result) :
    (∃ number, result = .ok number ∧ number.isNumber = true) ∨
      ∃ detail, result = .error (.raised (.constraint detail)) := by
  rcases result with (_ | error) | value
  · cases computed
  · cases computed with
    | violated detail => exact .inr ⟨detail, rfl⟩
  · cases computed with
    | integer number => exact .inl ⟨.integer number, rfl, rfl⟩
    | @float number finite => exact .inl ⟨.float number, rfl, rfl⟩

theorem argument_call (name : String) (left right : Expression) :
    Unlimited.argument table resolver (.list [.symbol name, left, right]) =
      Unlimited.argument table resolver left >>= fun first =>
        Unlimited.argument table resolver right >>= fun second =>
          (Evaluator.ofOperations table).apply resolver name
            [first, second] := by
  simp only [Unlimited.argument, Expression.symbol, Unlimited.call,
    Unlimited.arguments, bind_assoc, pure_bind]
  rfl

/-- A term computes: its operands do, and an operation does on what they come
to. -/
theorem DigitTerm.computedAt {term : Expression} (digits : DigitTerm term) :
    ComputedAt (Unlimited.argument table resolver term) := by
  induction digits with
  | digit small => exact .integer _
  | @call name left right named _ _ leftComputed rightComputed =>
      rw [argument_call]
      rcases computedAt_cases leftComputed with
        ⟨first, leftEnded, firstNumber⟩ | ⟨detail, leftFailed⟩
      · rw [leftEnded]
        rcases computedAt_cases rightComputed with
          ⟨second, rightEnded, secondNumber⟩ | ⟨detail, rightFailed⟩
        · rw [rightEnded]
          exact computedAt_apply named firstNumber secondNumber
        · rw [rightFailed]
          exact .violated detail
      · rw [leftFailed]
        exact .violated detail

/-- A term computes in the end, if the limit leaves room for its calls. -/
theorem DigitTerm.computed {term : Expression} (digits : DigitTerm term)
    (shallow : term.asList.nesting ≤ maxNesting) :
    Computed (Evaluator.arithmetic.evaluateWith resolver term.asList) := by
  rw [← asList_of_isList (Expression.isList_asList term)] at shallow
  have unlimited :
      Evaluator.arithmetic.evaluateWith resolver term.asList =
        Unlimited.outcome table resolver term.asList :=
    Evaluator.evaluateWith_of_shallow shallow
  have outcome : Unlimited.outcome table resolver term.asList =
      (Unlimited.argument table resolver term).mapError
        EvaluationFailure.error := by
    cases digits <;> rfl
  rw [unlimited, outcome]
  exact digits.computedAt

end Values

/-! ### The demonstration as a whole -/

theorem filled_grammar : Rewriting.Filled grammar :=
  Grammar.filled_of_validate (by decide +kernel)

/-- Every chromosome stands for a term, and never for a failure.  The term
evaluates to an integer, a finite float or a violated constraint, and it is
published with the fitness that goes by this outcome. -/
theorem decodes_to_digitTerm (limits : DerivationLimits) (genes : Chromosome)
    (nonempty : genes ≠ []) :
    ∃ term, DigitTerm term ∧
      (mapper limits).decode genes = .ok term.asList ∧
      Arithmetic.Computed (Evaluator.arithmetic.evaluate term.asList) ∧
      ∀ failureFitness : Float,
        ({ mapper limits with failureFitness }.fitness genes).value =
          ⟨closeness term.asList (Evaluator.arithmetic.evaluate term.asList),
            [term.asList]⟩ := by
  obtain ⟨reads, ended⟩ := guided_yields filled_grammar limits nonempty
  have stands : ∃ term, DigitTerm term ∧
      guided grammar.symbols limits genes = .ok term.asList ∧
      Decoded grammar limits term.asList := by
    rcases ended with fellBack | ⟨tree, returned, yields⟩
    -- What broken limits are replaced by happens to be a term: the digit 0.
    · exact ⟨.integer 0, .digit (by decide), fellBack, decoded_fallback⟩
    · exact ⟨tree, digitTerm_of_yields yields, returned, yields.decoded reads⟩
  obtain ⟨term, digits, decoded, bounds⟩ := stands
  have flat : grammar.deepest ≤ 1 := by decide +kernel
  have computed :
      Arithmetic.Computed (Evaluator.arithmetic.evaluate term.asList) :=
    digits.computed (bounds.nesting_le_of_flat flat)
  refine ⟨term, digits, decoded, computed, ?_⟩
  intro failureFitness
  have standsFor :
      { mapper limits with failureFitness }.decode genes = .ok term.asList :=
    decoded
  rw [SemanticMapper.value_fitness, SemanticMapper.assess, standsFor]
  rfl

/-- A division by zero is published too. -/
theorem decodes_to_digitTerm_divide :
    (mapper ⟨600, 6⟩).decode [0, 3, 2, 7, 2, 0] =
      .ok (.list [.symbol "divide", .integer 7, .integer 0]) ∧
    Arithmetic.Computed (Evaluator.arithmetic.evaluate
      (.list [.symbol "divide", .integer 7, .integer 0])) ∧
    ({ mapper ⟨600, 6⟩ with failureFitness := 0.0 }.fitness
        [0, 3, 2, 7, 2, 0]).value.published =
      [.list [.symbol "divide", .integer 7, .integer 0]] := by
  have decoded : (mapper ⟨600, 6⟩).decode [0, 3, 2, 7, 2, 0] =
      .ok (.list [.symbol "divide", .integer 7, .integer 0]) := by
    decide +kernel
  obtain ⟨term, _, standsFor, computed, published⟩ :=
    decodes_to_digitTerm ⟨600, 6⟩ [0, 3, 2, 7, 2, 0] (by decide)
  have same : .list [.symbol "divide", .integer 7, .integer 0] = term.asList :=
    Except.ok.inj (decoded.symm.trans standsFor)
  rw [← same] at computed published
  refine ⟨decoded, computed, ?_⟩
  rw [published]

end GrammaticalEvolution.Demonstration
