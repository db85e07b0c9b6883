import GrammaticalEvolution.SemanticMapper

/-!
# Variables are substitution

A variable that stands as an argument can be replaced by its value before the
evaluation.  Names have another precedence as heads: there every operation
comes before a variable, as an argument only an operation without arguments
does.  So heads are left as they are, and no variable may be called in place of
an operation.
-/

namespace GrammaticalEvolution

/-- An expression is a whole itself, or stands somewhere within its items. -/
inductive Expression.Within (inner : Expression) : Expression → Prop where
  | whole : Within inner inner
  | item {items : List Expression} {item : Expression} (member : item ∈ items)
      (inside : Within inner item) : Within inner (.list items)

/-- The name is that of an operation without arguments. -/
def OperationTable.isConstant (operations : OperationTable)
    (name : String) : Bool :=
  (operations.find? name).any fun operation => operation.arity == some 0

namespace Substituted

variable (operations : OperationTable) (bindings : List (String × Value))

mutual

/-- An argument with the values of variables in place of their names. -/
def argument : Expression → Expression
  | .list items => .list (call items)
  | .atom (.symbol name) =>
      if operations.isConstant name then .symbol name
      else .atom ((bindings.lookup name).getD (.symbol name))
  | .atom literal => .atom literal

/-- The items of a call, of which the head stays. -/
def call : List Expression → List Expression
  | [] => []
  | head :: rest => head :: arguments rest

def arguments : List Expression → List Expression
  | [] => []
  | item :: rest => argument item :: arguments rest

end

/-- An expression with the values of variables in place of their names; a leaf
is the head of a call without arguments. -/
def expression : Expression → Expression
  | .list items => .list (call operations bindings items)
  | .atom value => .atom value

/-- Where a variable heads a list of the expression, its name is that of an
operation. -/
def HeadsRegistered (expression : Expression) : Prop :=
  ∀ items name, Expression.Within (.list items) expression →
    items.head? = some (.symbol name) → (bindings.lookup name).isSome →
    operations.contains name = true

/-- No value is the name of an operation without arguments. -/
def ValuesInert : Prop :=
  ∀ name other, bindings.lookup name = some (.symbol other) →
    operations.isConstant other = false

section Nothing

variable {operations}

mutual

theorem argument_nil (item : Expression) :
    argument operations [] item = item := by
  cases item with
  | list items => rw [argument, call_nil]
  | atom value =>
      cases value with
      | symbol name =>
          rw [argument]
          split <;> rfl
      | integer | float | bool => rfl

theorem call_nil (items : List Expression) :
    call operations [] items = items := by
  cases items with
  | nil => rfl
  | cons head rest => rw [call, arguments_nil]

theorem arguments_nil (items : List Expression) :
    arguments operations [] items = items := by
  cases items with
  | nil => rfl
  | cons item rest => rw [arguments, argument_nil, arguments_nil]

end

/-- Nothing is replaced when there are no variables. -/
theorem expression_nil (expression : Expression) :
    Substituted.expression operations [] expression = expression := by
  cases expression with
  | list items => rw [Substituted.expression, call_nil]
  | atom value => rfl

end Nothing

variable {operations bindings}

theorem HeadsRegistered.item {items : List Expression} {item : Expression}
    (registered : HeadsRegistered operations bindings (.list items))
    (member : item ∈ items) : HeadsRegistered operations bindings item :=
  fun inner name inside => registered inner name (.item member inside)

end Substituted

namespace Evaluator

open Substituted

variable {evaluator : Evaluator} {bindings : List (String × Value)}
  {name : String}

/-- An operation without arguments comes before a variable. -/
theorem nameValue_of_constant
    (constant : evaluator.operations.isConstant name = true)
    (first second : Resolver) :
    evaluator.nameValue first name = evaluator.nameValue second name := by
  rw [OperationTable.isConstant, Option.any_eq_true] at constant
  obtain ⟨operation, found, arity⟩ := constant
  simp only [nameValue, found, beq_iff_eq.mp arity, if_true]

theorem nameValue_of_not_constant
    (notConstant : evaluator.operations.isConstant name = false)
    (resolver : Resolver) :
    evaluator.nameValue resolver name =
      if resolver.claims name then resolver.value name
      else .ok (.symbol name) := by
  unfold nameValue
  unfold OperationTable.isConstant at notConstant
  cases found : evaluator.operations.find? name with
  | none => rfl
  | some operation =>
      rw [found, Option.any_some, beq_eq_false_iff_ne] at notConstant
      simp only [if_neg notConstant]

/-- A value stands for itself unless it is the name of an operation without
arguments. -/
theorem argument_value {value : Value} (room : Nat)
    (inert : ∀ other, value = .symbol other →
      evaluator.operations.isConstant other = false) :
    argument evaluator .nothing room (.atom value) = .ok value := by
  cases value with
  | symbol other =>
      rw [argument, nameValue_of_not_constant (inert other rfl)]
      rfl
  | integer | float | bool => rfl

theorem argument_name (room : Nat)
    (inert : ValuesInert evaluator.operations bindings) :
    argument evaluator (.ofBindings bindings) room (.symbol name) =
      argument evaluator .nothing room
        (Substituted.argument evaluator.operations bindings
          (.symbol name)) := by
  change (evaluator.nameValue (.ofBindings bindings) name).mapError
    EvaluationFailure.raised = _
  rw [Expression.symbol, Substituted.argument]
  cases constant : evaluator.operations.isConstant name with
  | true =>
      rw [if_pos rfl, nameValue_of_constant constant _ .nothing]
      rfl
  | false =>
      rw [if_neg Bool.false_ne_true, nameValue_of_not_constant constant]
      cases bound : bindings.lookup name with
      | none =>
          rw [Option.getD_none, argument_value room]
          · simp only [Resolver.ofBindings, bound]
            rfl
          · intro other same
            exact Value.symbol.inj same ▸ constant
      | some value =>
          rw [Option.getD_some, argument_value room]
          · simp only [Resolver.ofBindings, bound]
            rfl
          · rintro other rfl
            exact inert name other bound

/-- A head that is no variable is applied alike with and without variables. -/
theorem apply_ofBindings (arguments : List Value)
    (registered : (bindings.lookup name).isSome →
      evaluator.operations.contains name = true) :
    evaluator.apply (.ofBindings bindings) name arguments =
      evaluator.apply .nothing name arguments := by
  unfold apply
  cases found : evaluator.operations.find? name with
  | some operation => rfl
  | none =>
      have unbound : (bindings.lookup name).isSome = false := by
        rw [Bool.eq_false_iff]
        intro bound
        have contained := registered bound
        rw [OperationTable.contains, found] at contained
        exact nomatch contained
      simp [Resolver.ofBindings, Resolver.nothing, unbound]

mutual

theorem call_substituted (inert : ValuesInert evaluator.operations bindings)
    (items : List Expression) (room : Nat)
    (registered : HeadsRegistered evaluator.operations bindings
      (.list items)) :
    call evaluator (.ofBindings bindings) room items =
      call evaluator .nothing room
        (Substituted.call evaluator.operations bindings items) := by
  cases room with
  | zero => rw [call, call]
  | succ room =>
      rcases items with _ | ⟨(_ | _ | _ | name) | inner, rest⟩
      case cons.atom.symbol =>
        have values := arguments_substituted inert rest room fun item member =>
          registered.item (List.mem_cons_of_mem _ member)
        rw [Substituted.call, call, call, values]
        refine bind_congr fun arguments => ?_
        exact apply_ofBindings arguments (registered _ name .whole rfl)
      -- Every other call ends at its head.
      all_goals rfl

theorem argument_substituted
    (inert : ValuesInert evaluator.operations bindings)
    (item : Expression) (room : Nat)
    (registered : HeadsRegistered evaluator.operations bindings item) :
    argument evaluator (.ofBindings bindings) room item =
      argument evaluator .nothing room
        (Substituted.argument evaluator.operations bindings item) := by
  cases item with
  | list items =>
      rw [Substituted.argument, argument, argument]
      exact call_substituted inert items room registered
  | atom value =>
      cases value with
      | symbol name => exact argument_name room inert
      | integer | float | bool => rfl

theorem arguments_substituted
    (inert : ValuesInert evaluator.operations bindings)
    (items : List Expression) (room : Nat)
    (registered : ∀ item ∈ items,
      HeadsRegistered evaluator.operations bindings item) :
    arguments evaluator (.ofBindings bindings) room items =
      arguments evaluator .nothing room
        (Substituted.arguments evaluator.operations bindings items) := by
  cases items with
  | nil => rfl
  | cons item rest =>
      have first := argument_substituted inert item room
        (registered item List.mem_cons_self)
      have others := arguments_substituted inert rest room fun other member =>
        registered other (List.mem_cons_of_mem _ member)
      rw [Substituted.arguments, arguments, arguments, first, others]

end

theorem attempt_substituted
    (inert : ValuesInert evaluator.operations bindings)
    (expression : Expression)
    (registered : HeadsRegistered evaluator.operations bindings
      expression.asList) :
    evaluator.attempt (.ofBindings bindings) expression =
      evaluator.attempt .nothing
        (Substituted.expression evaluator.operations bindings expression) := by
  cases expression with
  | list items => exact call_substituted inert items _ registered
  | atom value => exact call_substituted inert [.atom value] _ registered

/-- Evaluating with variables is evaluating the expression in which their
values stand in place of their names, unless a variable heads a list without
being an operation or a value is the name of an operation without arguments.
Without variables nothing is replaced, so that a mapper without bindings may
evaluate as if there were no variables. -/
theorem variables_are_substituted (evaluator : Evaluator)
    (expression : Expression) :
    (∀ bindings,
      HeadsRegistered evaluator.operations bindings expression.asList →
      ValuesInert evaluator.operations bindings →
      evaluator.evaluateWith (.ofBindings bindings) expression =
        evaluator.evaluate
          (Substituted.expression evaluator.operations bindings expression)) ∧
    evaluator.evaluateWith (.ofBindings []) expression =
      evaluator.evaluate expression ∧
    ∀ mapper : SemanticMapper,
      mapper.evaluate expression =
        mapper.evaluator.evaluateWith (.ofBindings mapper.bindings)
          expression ∧
      (mapper.bindings = [] →
        mapper.evaluate expression =
          mapper.evaluator.evaluate expression) := by
  have without : ∀ evaluator : Evaluator,
      evaluator.evaluateWith (.ofBindings []) expression =
        evaluator.evaluate expression := by
    intro evaluator
    have attempted : evaluator.attempt (.ofBindings []) expression =
        evaluator.attempt .nothing expression := by
      have inert : ValuesInert evaluator.operations [] :=
        fun _ _ bound => nomatch bound
      have substituted := attempt_substituted inert expression
        fun _ _ _ _ bound => nomatch bound
      rwa [Substituted.expression_nil] at substituted
    rw [evaluate, evaluateWith, evaluateWith, attempted]
  refine ⟨?_, without evaluator, ?_⟩
  · intro bindings registered inert
    rw [evaluate, evaluateWith, evaluateWith,
      attempt_substituted inert expression registered]
  · intro mapper
    refine ⟨mapper.evaluate_eq expression, fun unbound => ?_⟩
    rw [mapper.evaluate_eq, unbound]
    exact without mapper.evaluator

/-- Stock arithmetic, with a constant of the name of a variable. -/
def withTen : Evaluator :=
  ofOperations (Arithmetic.table.register
    ⟨"ten", some 0, fun _ => .ok (.integer 10)⟩)

/-- The operation in head position and the constant stay, the variables do
not. -/
theorem variables_are_substituted_product :
    let bindings : List (String × Value) :=
      [("x", .integer 5), ("ten", .integer 3), ("multiply", .symbol "add")]
    let product : Expression :=
      .list [.symbol "multiply", .symbol "x",
        .list [.symbol "add", .symbol "ten", .symbol "x"]]
    Substituted.expression withTen.operations bindings product =
      .list [.symbol "multiply", .integer 5,
        .list [.symbol "add", .symbol "ten", .integer 5]] ∧
    withTen.evaluateWith (.ofBindings bindings) product =
      .ok (.integer 75) := by
  intro bindings product
  have registered : HeadsRegistered withTen.operations bindings
      product.asList := by
    intro items name inside headed _
    cases inside with
    | whole =>
        cases headed
        rfl
    | item member inside =>
        simp only [List.mem_cons, List.not_mem_nil, or_false] at member
        rcases member with rfl | rfl | rfl
        · cases inside
        · cases inside
        · cases inside with
          | whole =>
              cases headed
              rfl
          | item member inside =>
              simp only [List.mem_cons, List.not_mem_nil, or_false] at member
              rcases member with rfl | rfl | rfl <;> cases inside
  have inert : ValuesInert withTen.operations bindings := by
    intro name other bound
    simp only [bindings, List.lookup_cons, List.lookup_nil] at bound
    split at bound
    · cases bound
    · split at bound
      · cases bound
      · split at bound
        · cases bound
          rfl
        · cases bound
  have substituted :=
    (variables_are_substituted withTen product).1 bindings registered inert
  exact ⟨rfl, substituted.trans rfl⟩

end Evaluator

end GrammaticalEvolution
