import GrammaticalEvolution.Proofs.DigitTerms
import GrammaticalEvolution.Proofs.IntegerFloats
import Mathlib.Algebra.Field.Rat
import Mathlib.Data.Rat.Cast.Order
import Mathlib.Tactic.NormNum

/-!
# Integer results are exact

Terms over integers have an exact value in the rational numbers, unless a
divisor is zero.  Stock arithmetic answers with an integer if and only if that
value, and the value of every part of the term, is an integer of the 64-bit
range.  Whatever leaves the integers is a float or an error from there on.
-/

namespace GrammaticalEvolution.Arithmetic

open GrammaticalEvolution.Demonstration (operationNames argument_call
  exists_operation)

/-- An integer, or a call of a stock operation on two terms. -/
inductive IntegerTerm : Expression → Prop where
  | leaf (number : Int64) : IntegerTerm (.integer number)
  | call {name : String} {left right : Expression}
      (named : name ∈ operationNames) (first : IntegerTerm left)
      (second : IntegerTerm right) :
      IntegerTerm (.list [.symbol name, left, right])

/-- A part of a term: the term itself, or a part of one of its operands. -/
inductive Part (part : Expression) : Expression → Prop where
  | whole : Part part part
  | inLeft {name : String} {left right : Expression} (inside : Part part left) :
      Part part (.list [.symbol name, left, right])
  | inRight {name : String} {left right : Expression}
      (inside : Part part right) :
      Part part (.list [.symbol name, left, right])

/-- The exact result of an operation, which has none for a zero divisor. -/
def exactResult? (name : String) (left right : Rat) : Option Rat :=
  match name with
  | "add" => some (left + right)
  | "subtract" => some (left - right)
  | "multiply" => some (left * right)
  | "divide" => if right = 0 then none else some (left / right)
  | _ => none

/-- The exact value of a term, which has none if a divisor is zero. -/
def exactValue? : Expression → Option Rat
  | .atom (.integer number) => some number.toInt
  | .list [.atom (.symbol name), left, right] => do
      exactResult? name (← exactValue? left) (← exactValue? right)
  | _ => none

theorem exactValue?_call (name : String) (left right : Expression) :
    exactValue? (.list [.symbol name, left, right]) =
      (exactValue? left).bind fun first =>
        (exactValue? right).bind fun second =>
          exactResult? name first second := by
  simp only [Expression.symbol, exactValue?]
  rfl

/-! ### One operation -/

theorem inRange_iff {exact : Int} :
    inRange exact = true ↔ ∃ number : Int64, number.toInt = exact := by
  simp only [inRange, Bool.and_eq_true, decide_eq_true_eq]
  constructor
  · rintro ⟨lower, upper⟩
    exact ⟨Int64.ofInt exact,
      Int64.toInt_ofInt_of_le lower (Int.lt_add_one_of_le upper)⟩
  · rintro ⟨number, rfl⟩
    exact ⟨number.minValue_le_toInt, number.toInt_le⟩

theorem checkedInteger_eq_ok_iff {name : String} {exact : Int}
    {number : Int64} :
    checkedInteger name exact = .ok (.integer number) ↔
      exact = number.toInt := by
  unfold checkedInteger
  by_cases inside : inRange exact = true
  · obtain ⟨result, rfl⟩ := inRange_iff.mp inside
    rw [if_pos inside, Int64.ofInt_toInt, Int64.toInt_inj]
    simp
  · rw [if_neg inside]
    refine ⟨nofun, fun same => absurd ?_ inside⟩
    exact inRange_iff.mpr ⟨number, same.symm⟩

theorem checkedFloat_ne_integer (name : String) (result : Float)
    (number : Int64) : checkedFloat name result ≠ .ok (.integer number) := by
  unfold checkedFloat
  split <;> exact nofun

/-- A quotient is an integer only if the division leaves no remainder and the
quotient lies in the range, as it does not for the least integer and -1. -/
theorem quotient_eq_ok_iff {name : String} {left right number : Int64}
    (nonzero : right.toInt ≠ 0) :
    quotient name (.integer left, .integer right) = .ok (.integer number) ↔
      left.toInt = number.toInt * right.toInt := by
  simp only [quotient]
  constructor
  · intro computed
    split at computed
    · next divides =>
        obtain ⟨result, exact⟩ := inRange_iff.mp divides.2
        rw [← exact, Int64.ofInt_toInt] at computed
        cases computed
        rw [exact, Int.tdiv_mul_cancel (Int.dvd_of_tmod_eq_zero divides.1)]
    · exact absurd computed (checkedFloat_ne_integer _ _ _)
  · intro product
    have exact : Int.tdiv left.toInt right.toInt = number.toInt := by
      rw [product, Int.mul_tdiv_cancel _ nonzero]
    have remainder : Int.tmod left.toInt right.toInt = 0 := by
      rw [product, Int.mul_tmod_left]
    rw [exact, if_pos ⟨remainder, inRange_iff.mpr ⟨number, rfl⟩⟩,
      Int64.ofInt_toInt]

/-- An operation that answers with an integer has been given integers. -/
def NeedsIntegers (operation : Operation) : Prop :=
  ∀ left right number,
    operation.execute [left, right] = .ok (.integer number) →
    ∃ first second : Int64, left = .integer first ∧ right = .integer second

theorem needsIntegers_binary (name : String) (exact : Int → Int → Int)
    (rounded : Float → Float → Float) :
    NeedsIntegers (binary name exact rounded) := by
  intro left right number computed
  rcases left with first | first | first | first <;>
    rcases right with second | second | second | second
  case integer.integer => exact ⟨first, second, rfl, rfl⟩
  case integer.float | float.integer | float.float =>
    exact absurd computed (checkedFloat_ne_integer _ _ _)
  all_goals exact nomatch computed

/-- The conversion to a float makes no other integer zero. -/
theorem isZero_integer_iff {number : Int64} :
    isZero (.integer number) = true ↔ number = 0 :=
  Int64.nearestFloat_beq_zero_iff

theorem execute_divide {left right : Value} (first : left.isNumber = true)
    (second : right.isNumber = true) :
    divide.execute [left, right] =
      if isZero right then .error (.constraint "division by zero")
      else quotient "divide" (left, right) := by
  simp only [divide, operands, first, second]
  rfl

theorem needsIntegers_divide : NeedsIntegers divide := by
  intro left right number computed
  rcases left with first | first | first | first <;>
    rcases right with second | second | second | second
  case integer.integer => exact ⟨first, second, rfl, rfl⟩
  case integer.float | float.integer | float.float =>
    rw [execute_divide rfl rfl] at computed
    split at computed
    · exact nomatch computed
    · exact absurd computed (checkedFloat_ne_integer _ _ _)
  all_goals exact nomatch computed

theorem execute_divide_eq_ok_iff {first second number : Int64} :
    divide.execute [.integer first, .integer second] =
        .ok (.integer number) ↔
      exactResult? "divide" first.toInt second.toInt =
        some (number.toInt : Rat) := by
  rw [execute_divide rfl rfl, exactResult?]
  by_cases zero : second = 0
  · rw [if_pos (isZero_integer_iff.mpr zero)]
    simp [zero]
  · have nonzero : second.toInt ≠ 0 := by
      intro same
      exact zero (Int64.toInt_inj.mp same)
    have castNonzero : (second.toInt : Rat) ≠ 0 := by
      exact_mod_cast nonzero
    rw [if_neg (mt isZero_integer_iff.mp zero), quotient_eq_ok_iff nonzero,
      if_neg castNonzero, Option.some_inj, div_eq_iff castNonzero]
    exact_mod_cast Iff.rfl

theorem execute_integers_eq_ok_iff {operation : Operation}
    (member : operation ∈ stock) {first second number : Int64} :
    operation.execute [.integer first, .integer second] =
        .ok (.integer number) ↔
      exactResult? operation.name first.toInt second.toInt =
        some (number.toInt : Rat) := by
  simp only [stock, List.mem_cons, List.not_mem_nil, or_false] at member
  rcases member with rfl | rfl | rfl | rfl
  case inr.inr.inr => exact execute_divide_eq_ok_iff
  -- The others are exact on integers and check the range of the result.
  all_goals
    refine checkedInteger_eq_ok_iff.trans ?_
    simp only [add, subtract, multiply, binary, exactResult?, Option.some_inj]
    exact_mod_cast Iff.rfl

theorem execute_eq_integer_iff {operation : Operation}
    (member : operation ∈ stock) {left right : Value} {number : Int64} :
    operation.execute [left, right] = .ok (.integer number) ↔
      ∃ first second : Int64, left = .integer first ∧
        right = .integer second ∧
        exactResult? operation.name first.toInt second.toInt =
          some (number.toInt : Rat) := by
  constructor
  · intro computed
    have needs : NeedsIntegers operation := by
      simp only [stock, List.mem_cons, List.not_mem_nil, or_false] at member
      rcases member with rfl | rfl | rfl | rfl
      · exact needsIntegers_binary _ _ _
      · exact needsIntegers_binary _ _ _
      · exact needsIntegers_binary _ _ _
      · exact needsIntegers_divide
    obtain ⟨first, second, rfl, rfl⟩ := needs _ _ _ computed
    exact ⟨first, second, rfl, rfl,
      (execute_integers_eq_ok_iff member).mp computed⟩
  · rintro ⟨first, second, rfl, rfl, exact⟩
    exact (execute_integers_eq_ok_iff member).mpr exact

/-! ### Whole terms -/

section Terms

variable {resolver : Resolver} {term part : Expression}

theorem mapError_eq_ok_iff {ε δ α : Type} {result : Except ε α} {rename : ε → δ}
    {value : α} : result.mapError rename = .ok value ↔ result = .ok value := by
  cases result with
  | ok other => simp [Except.mapError]
  | error error => exact ⟨nofun, nofun⟩

theorem apply_eq_integer_iff {name : String} (named : name ∈ operationNames)
    {left right : Value} {number : Int64} :
    (Evaluator.ofOperations table).apply resolver name [left, right] =
        .ok (.integer number) ↔
      ∃ first second : Int64, left = .integer first ∧
        right = .integer second ∧
        exactResult? name first.toInt second.toInt =
          some (number.toInt : Rat) := by
  obtain ⟨operation, member, rfl, applied⟩ := exists_operation named
  rw [applied, mapError_eq_ok_iff, execute_eq_integer_iff member]

/-- Every part has an exact value, and it is an integer of the range. -/
def Integral (term : Expression) : Prop :=
  ∀ part, Part part term →
    ∃ whole : Int64, exactValue? part = some (whole.toInt : Rat)

theorem integral_call_iff {name : String} {left right : Expression} :
    Integral (.list [.symbol name, left, right]) ↔
      Integral left ∧ Integral right ∧
        ∃ whole : Int64, exactValue? (.list [.symbol name, left, right]) =
          some (whole.toInt : Rat) := by
  constructor
  · intro integral
    exact ⟨fun part inside => integral part (.inLeft inside),
      fun part inside => integral part (.inRight inside),
      integral _ .whole⟩
  · rintro ⟨inLeft, inRight, whole⟩ part inside
    cases inside with
    | whole => exact whole
    | inLeft inside => exact inLeft part inside
    | inRight inside => exact inRight part inside

theorem argument_eq_integer_iff (integers : IntegerTerm term)
    {number : Int64} :
    Unlimited.argument table resolver term = .ok (.integer number) ↔
      Integral term ∧ exactValue? term = some (number.toInt : Rat) := by
  induction integers generalizing number with
  | leaf leaf =>
      have integral : Integral (.integer leaf) := by
        rintro part ⟨⟩
        exact ⟨leaf, rfl⟩
      have valued : exactValue? (.integer leaf) = some (leaf.toInt : Rat) := rfl
      have evaluated : Unlimited.argument table resolver (.integer leaf) =
          .ok (.integer leaf) := rfl
      rw [evaluated, valued, Option.some_inj, Rat.intCast_inj,
        Int64.toInt_inj]
      simp [integral]
  | @call name left right named _ _ leftIff rightIff =>
      rw [argument_call, integral_call_iff, exactValue?_call]
      constructor
      · intro computed
        cases leftEnded : Unlimited.argument table resolver left with
        | error failure => exact nomatch leftEnded ▸ computed
        | ok leftValue =>
            cases rightEnded : Unlimited.argument table resolver right with
            | error failure => exact nomatch leftEnded ▸ rightEnded ▸ computed
            | ok rightValue =>
                rw [leftEnded, rightEnded] at computed
                obtain ⟨first, second, rfl, rfl, exact⟩ :=
                  (apply_eq_integer_iff named).mp computed
                obtain ⟨leftIntegral, leftExact⟩ := leftIff.mp leftEnded
                obtain ⟨rightIntegral, rightExact⟩ := rightIff.mp rightEnded
                rw [leftExact, rightExact, Option.bind_some, Option.bind_some]
                exact ⟨⟨leftIntegral, rightIntegral, number, exact⟩, exact⟩
      · rintro ⟨⟨leftIntegral, rightIntegral, _⟩, exact⟩
        obtain ⟨first, leftExact⟩ := leftIntegral left .whole
        obtain ⟨second, rightExact⟩ := rightIntegral right .whole
        rw [leftExact, rightExact, Option.bind_some, Option.bind_some] at exact
        rw [leftIff.mpr ⟨leftIntegral, leftExact⟩,
          rightIff.mpr ⟨rightIntegral, rightExact⟩]
        exact (apply_eq_integer_iff named).mpr ⟨first, second, rfl, rfl, exact⟩

theorem Part.trans {inner : Expression} (deeper : Part inner part)
    (inside : Part part term) : Part inner term := by
  induction inside with
  | whole => exact deeper
  | inLeft _ induction => exact .inLeft induction
  | inRight _ induction => exact .inRight induction

theorem Part.integerTerm (inside : Part part term)
    (integers : IntegerTerm term) : IntegerTerm part := by
  induction inside with
  | whole => exact integers
  | inLeft _ induction =>
      cases integers with
      | call _ first _ => exact induction first
  | inRight _ induction =>
      cases integers with
      | call _ _ second => exact induction second

theorem Part.nesting_le (inside : Part part term) :
    part.nesting ≤ term.nesting := by
  induction inside with
  | whole => exact Nat.le_refl _
  | inLeft _ induction =>
      simp only [Expression.nesting, Expression.nestingList]
      omega
  | inRight _ induction =>
      simp only [Expression.nesting, Expression.nestingList]
      omega

theorem Part.nesting_asList_le (inside : Part part term) :
    part.asList.nesting ≤ term.asList.nesting := by
  have deeper := inside.nesting_le
  rw [Derivation.nesting_asList, Derivation.nesting_asList]
  omega

variable {evaluator : Evaluator}

theorem evaluateWith_eq_ok_iff (stock : evaluator.operations = table)
    (integers : IntegerTerm term)
    (shallow : term.asList.nesting ≤ evaluator.depthLimit) {value : Value} :
    evaluator.evaluateWith resolver term = .ok value ↔
      Unlimited.argument table resolver term = .ok value := by
  have outcome : Unlimited.outcome table resolver term =
      (Unlimited.argument table resolver term).mapError
        EvaluationFailure.error := by
    cases integers <;> rfl
  rw [Evaluator.evaluateWith_of_shallow shallow, stock, outcome,
    mapError_eq_ok_iff]

/-- Stock arithmetic on integers answers with an integer if and only if no
divisor is zero, every part of the term has an exact value that is an integer
of the range, and the answer is the exact value of the whole.  No call around a
part that has become a float answers with an integer. -/
theorem evaluates_to_integer_iff (stock : evaluator.operations = table)
    (integers : IntegerTerm term)
    (shallow : term.asList.nesting ≤ evaluator.depthLimit) :
    (∀ number : Int64,
      evaluator.evaluateWith resolver term = .ok (.integer number) ↔
        (∀ left right, Part (.list [.symbol "divide", left, right]) term →
          exactValue? right ≠ some 0) ∧
        (∀ part, Part part term →
          ∃ whole : Int64, exactValue? part = some (whole.toInt : Rat)) ∧
        exactValue? term = some (number.toInt : Rat)) ∧
    ∀ part result, Part part term →
      evaluator.evaluateWith resolver part = .ok (.float result) →
      ∀ number,
        evaluator.evaluateWith resolver term ≠ .ok (.integer number) := by
  constructor
  · intro number
    rw [evaluateWith_eq_ok_iff stock integers shallow,
      argument_eq_integer_iff integers]
    constructor
    · rintro ⟨integral, exact⟩
      refine ⟨fun left right inside zero => ?_, integral, exact⟩
      -- A call with a zero divisor would have no exact value.
      obtain ⟨whole, valued⟩ := integral _ inside
      rw [exactValue?_call, zero] at valued
      simp [exactResult?] at valued
    · rintro ⟨_, integral, exact⟩
      exact ⟨integral, exact⟩
  · intro part result inside becameFloat number answered
    have partIntegers := inside.integerTerm integers
    have partShallow := Nat.le_trans inside.nesting_asList_le shallow
    rw [evaluateWith_eq_ok_iff stock partIntegers partShallow] at becameFloat
    rw [evaluateWith_eq_ok_iff stock integers shallow,
      argument_eq_integer_iff integers] at answered
    obtain ⟨integral, _⟩ := answered
    obtain ⟨whole, valued⟩ := integral part inside
    have partIntegral : Integral part :=
      fun inner deeper => integral inner (deeper.trans inside)
    have partAnswered :
        Unlimited.argument table resolver part = .ok (.integer whole) :=
      (argument_eq_integer_iff partIntegers).mpr ⟨partIntegral, valued⟩
    exact nomatch becameFloat.symm.trans partAnswered

end Terms

/-- Half the least integer, added to itself. -/
def leastSum : Expression :=
  .list [.symbol "add",
    .list [.symbol "divide", .integer Int64.minValue, .integer 2],
    .list [.symbol "multiply", .integer 2,
      .integer (-2305843009213693952)]]

/-- The least integer divided by -1 is too large. -/
def tooLarge : Expression :=
  .list [.symbol "divide", .integer Int64.minValue, .integer (-1)]

theorem evaluates_to_integer_at_ends :
    exactValue? leastSum = some (Int64.minValue.toInt : Rat) ∧
    ∀ number, (Evaluator.arithmetic.withDepthLimit 2).evaluate
      (.list [.symbol "divide", tooLarge, tooLarge]) ≠
        .ok (.integer number) := by
  have divides : "divide" ∈ operationNames := by decide
  have sum : IntegerTerm leastSum :=
    .call (by decide) (.call divides (.leaf _) (.leaf _))
      (.call (by decide) (.leaf _) (.leaf _))
  have large : IntegerTerm tooLarge := .call divides (.leaf _) (.leaf _)
  constructor
  · have evaluated : (Evaluator.arithmetic.withDepthLimit 2).evaluate leastSum =
        .ok (.integer Int64.minValue) := rfl
    refine (((evaluates_to_integer_iff ?stock sum ?shallow).1 _).mp
      evaluated).2.2
    · rfl
    · decide
  · have became : (Evaluator.arithmetic.withDepthLimit 2).evaluate tooLarge =
        .ok (.float 9223372036854775808.0) := by
      decide +kernel
    exact (evaluates_to_integer_iff rfl (.call divides large large)
      (by decide)).2 _ _ (.inLeft .whole) became

end GrammaticalEvolution.Arithmetic
