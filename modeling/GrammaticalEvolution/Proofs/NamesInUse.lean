import GrammaticalEvolution.Evaluation
import GrammaticalEvolution.Proofs.DerivedTrees

/-!
# Names in use

Of its tables an evaluation sees no more than what stands behind the names in
the expression, and of an operation no more than its name, its arity and what
it does with arguments that it takes.  Symbols that operations or variables
return are not looked up again.
-/

namespace GrammaticalEvolution

namespace Operation

variable {left right : Operation}

/-- Operations that no call tells apart: they may differ on arguments that they
do not take. -/
structure Interchangeable (left right : Operation) : Prop where
  name : left.name = right.name
  arity : left.arity = right.arity
  execute : ∀ arguments, left.accepts arguments.length = true →
    left.execute arguments = right.execute arguments

theorem Interchangeable.refl (operation : Operation) :
    operation.Interchangeable operation :=
  ⟨rfl, rfl, fun _ _ => rfl⟩

/-- The number of arguments is checked before every execution. -/
theorem Interchangeable.invoke (same : left.Interchangeable right)
    (arguments : List Value) :
    left.invoke arguments = right.invoke arguments := by
  have executed := same.execute arguments
  unfold Operation.accepts at executed
  unfold Operation.invoke
  rw [← same.arity, ← same.name]
  cases arity : left.arity with
  | none =>
      rw [arity] at executed
      exact executed rfl
  | some expected =>
      simp only [arity, beq_iff_eq] at executed
      by_cases fits : expected = arguments.length
      · simp only [if_pos fits]
        exact executed fits
      · simp only [if_neg fits]

end Operation

namespace OperationTable

theorem find?_register (table : OperationTable) {operation : Operation}
    {name : String} (different : operation.name ≠ name) :
    (table.register operation).find? name = table.find? name := by
  have kept : ∀ other : Operation,
      (other.name != operation.name && other.name == name) =
        (other.name == name) := by
    intro other
    by_cases named : other.name = name
    · simp [named, Ne.symm different]
    · simp [named]
  unfold find? register others
  rw [List.find?_cons_of_neg (by simpa using different), List.find?_filter]
  simp only [Bool.decide_and, Bool.decide_eq_true, kept]

theorem find?_registerAll (table : OperationTable)
    {operations : List Operation} {name : String}
    (different : ∀ operation ∈ operations, operation.name ≠ name) :
    (table.registerAll operations).find? name = table.find? name := by
  induction operations generalizing table with
  | nil => rfl
  | cons first others induction =>
      obtain ⟨firstDifferent, othersDifferent⟩ :=
        List.forall_mem_cons.mp different
      have later := induction (table.register first) othersDifferent
      exact later.trans (table.find?_register firstDifferent)

end OperationTable

/-- The same stands behind a name on both sides: no operation or
interchangeable ones, and no variable or variables of one value. -/
structure AgreeAt (left right : OperationTable)
    (leftResolver rightResolver : Resolver) (name : String) : Prop where
  operations : Option.Rel Operation.Interchangeable (left.find? name)
    (right.find? name)
  claims : leftResolver.claims name = rightResolver.claims name
  value : leftResolver.claims name = true →
    leftResolver.value name = rightResolver.value name

namespace Evaluator

variable {left right : Evaluator} {leftResolver rightResolver : Resolver}
  {name : String}

theorem nameValue_of_agree
    (agree : AgreeAt left.operations right.operations leftResolver
      rightResolver name) :
    left.nameValue leftResolver name = right.nameValue rightResolver name := by
  have asVariable :
      (if leftResolver.claims name then leftResolver.value name
        else .ok (.symbol name)) =
      if rightResolver.claims name then rightResolver.value name
        else .ok (.symbol name) := by
    rw [← agree.claims]
    split
    · next claimed => exact agree.value claimed
    · rfl
  have found := agree.operations
  unfold nameValue
  rw [asVariable]
  generalize left.operations.find? name = leftFound at found
  generalize right.operations.find? name = rightFound at found
  cases found with
  | none => rfl
  | some same => simp only [same.arity, same.invoke]

theorem apply_of_agree
    (agree : AgreeAt left.operations right.operations leftResolver
      rightResolver name) (arguments : List Value) :
    left.apply leftResolver name arguments =
      right.apply rightResolver name arguments := by
  have found := agree.operations
  unfold apply
  generalize left.operations.find? name = leftFound at found
  generalize right.operations.find? name = rightFound at found
  cases found with
  | none =>
      simp only
      rw [← agree.claims]
      split
      · next claimed => rw [agree.value claimed]
      · rfl
  | some same => simp only [same.invoke]

mutual

theorem call_of_agree (limits : left.depthLimit = right.depthLimit)
    (items : List Expression) (room : Nat)
    (agree : ∀ name, .symbol name ∈ Expression.leavesList items →
      AgreeAt left.operations right.operations leftResolver rightResolver
        name) :
    call left leftResolver room items =
      call right rightResolver room items := by
  cases room with
  | zero => rw [call, call, limits]
  | succ room =>
      rcases items with _ | ⟨(_ | _ | _ | name) | inner, rest⟩
      case cons.atom.symbol =>
        have values := arguments_of_agree limits rest room fun other member =>
          agree other (List.mem_append_right _ member)
        have head := agree name (List.mem_append_left _ List.mem_cons_self)
        rw [call, call, values]
        exact bind_congr fun arguments => apply_of_agree head arguments
      -- Every other call ends at its head.
      all_goals rfl

theorem argument_of_agree (limits : left.depthLimit = right.depthLimit)
    (item : Expression) (room : Nat)
    (agree : ∀ name, .symbol name ∈ item.leaves →
      AgreeAt left.operations right.operations leftResolver rightResolver
        name) :
    argument left leftResolver room item =
      argument right rightResolver room item := by
  rcases item with (_ | _ | _ | name) | items
  case atom.symbol =>
    rw [argument, argument, nameValue_of_agree
      (agree name List.mem_cons_self)]
  case list =>
    rw [argument, argument]
    exact call_of_agree limits items room agree
  all_goals rfl

theorem arguments_of_agree (limits : left.depthLimit = right.depthLimit)
    (items : List Expression) (room : Nat)
    (agree : ∀ name, .symbol name ∈ Expression.leavesList items →
      AgreeAt left.operations right.operations leftResolver rightResolver
        name) :
    arguments left leftResolver room items =
      arguments right rightResolver room items := by
  cases items with
  | nil => rfl
  | cons item rest =>
      have first := argument_of_agree limits item room fun name member =>
        agree name (List.mem_append_left _ member)
      have others := arguments_of_agree limits rest room fun name member =>
        agree name (List.mem_append_right _ member)
      rw [arguments, arguments, first, others]

end

/-- What stands behind the names in the expression decides its outcome. -/
theorem evaluateWith_of_agree (limits : left.depthLimit = right.depthLimit)
    (expression : Expression)
    (agree : ∀ name, .symbol name ∈ expression.leaves →
      AgreeAt left.operations right.operations leftResolver rightResolver
        name) :
    left.evaluateWith leftResolver expression =
      right.evaluateWith rightResolver expression := by
  have attempted : left.attempt leftResolver expression =
      right.attempt rightResolver expression := by
    cases expression with
    | list items =>
        rw [attempt, attempt, limits]
        exact call_of_agree limits items _ agree
    | atom value =>
        rw [attempt, attempt, limits]
        apply call_of_agree limits [.atom value]
        simpa only [Expression.leavesList, List.append_nil] using agree
  rw [evaluateWith, evaluateWith, attempted]

/-- Two evaluators of one limit have the same outcome for an expression, the
same value or the same error, if for every name in it there are interchangeable
operations on both sides or none, and a variable of one value on both sides or
none.  So operations whose names do not occur may be added or replaced. -/
theorem only_names_in_use_count (expression : Expression) :
    (∀ (left right : Evaluator) (leftResolver rightResolver : Resolver),
      left.depthLimit = right.depthLimit →
      (∀ name, .symbol name ∈ expression.leaves →
        AgreeAt left.operations right.operations leftResolver rightResolver
          name) →
      left.evaluateWith leftResolver expression =
        right.evaluateWith rightResolver expression) ∧
    ∀ (evaluator : Evaluator) (resolver : Resolver)
      (operations : List Operation),
      (∀ operation ∈ operations,
        .symbol operation.name ∉ expression.leaves) →
      ({ evaluator with
          operations := evaluator.operations.registerAll operations } :
        Evaluator).evaluateWith resolver expression =
          evaluator.evaluateWith resolver expression := by
  constructor
  · intro left right leftResolver rightResolver limits agree
    exact evaluateWith_of_agree limits expression agree
  · intro evaluator resolver operations unused
    apply evaluateWith_of_agree
    · rfl
    intro name occurs
    have different : ∀ operation ∈ operations, operation.name ≠ name := by
      rintro operation member rfl
      exact unused operation member occurs
    refine ⟨?_, rfl, fun _ => rfl⟩
    rw [evaluator.operations.find?_registerAll different]
    cases evaluator.operations.find? name with
    | none => exact .none
    | some operation => exact .some (.refl operation)

/-- Stock arithmetic with a constant, and with an addition that would take any
number of arguments if it were called with them. -/
def lenient : Evaluator :=
  .ofOperations (Arithmetic.table.registerAll
    [⟨"ten", some 0, fun _ => .ok (.integer 10)⟩,
      { Arithmetic.add with
        execute := fun arguments =>
          if arguments.length = 2 then Arithmetic.add.execute arguments
          else .ok (.symbol "ten") }])

/-- The lenient addition adds where it is called with two arguments and is not
executed on three. -/
theorem only_names_in_use_count_lenient :
    let bindings : List (String × Value) := [("x", .integer 5)]
    let sum : Expression :=
      .list [.symbol "add", .symbol "x",
        .list [.symbol "add", .symbol "x", .integer 1]]
    let crowded : Expression :=
      .list [.symbol "add", .symbol "x", .symbol "x", .symbol "x"]
    lenient.evaluateWith (.ofBindings bindings) sum = .ok (.integer 11) ∧
    lenient.evaluateWith (.ofBindings bindings) crowded =
      .error (.arity "add" 2 3) := by
  intro bindings sum crowded
  have agree : ∀ name, name = "add" ∨ name = "x" →
      AgreeAt lenient.operations Arithmetic.table (.ofBindings bindings)
        (.ofBindings (("ten", .integer 1) :: bindings)) name := by
    rintro name (rfl | rfl)
    · refine ⟨.some ⟨rfl, rfl, ?_⟩, rfl, nofun⟩
      intro arguments taken
      exact if_pos (beq_iff_eq.mp taken).symm
    · exact ⟨.none, rfl, fun _ => rfl⟩
  have sumNames : ∀ name, .symbol name ∈ sum.leaves →
      name = "add" ∨ name = "x" := by
    simp [sum, Expression.leaves, Expression.leavesList, Expression.symbol,
      Expression.integer]
  have crowdedNames : ∀ name, .symbol name ∈ crowded.leaves →
      name = "add" ∨ name = "x" := by
    simp [crowded, Expression.leaves, Expression.leavesList,
      Expression.symbol]
  obtain ⟨sameSum, -⟩ := only_names_in_use_count sum
  obtain ⟨sameCrowded, -⟩ := only_names_in_use_count crowded
  constructor
  · exact sameSum lenient arithmetic _ _ rfl fun name occurs =>
      agree name (sumNames name occurs)
  · exact sameCrowded lenient arithmetic _ _ rfl fun name occurs =>
      agree name (crowdedNames name occurs)

end Evaluator

end GrammaticalEvolution
