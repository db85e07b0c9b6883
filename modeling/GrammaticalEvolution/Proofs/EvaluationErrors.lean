import GrammaticalEvolution.Proofs.EvaluationDepth

/-!
# Errors of an evaluation

The error of the limit is the evaluator's own: an evaluation that has room for
all nested calls never answers with it, unless an operation or a variable does.
The stock operations do not.  On two numbers they compute, which leaves an
integer, a finite float or a violated constraint; on anything else they refuse
their arguments.
-/

namespace GrammaticalEvolution

namespace Evaluator

/-- Neither operations nor variables answer that the limit is exceeded. -/
structure RaisesNoLimit (operations : OperationTable) (resolver : Resolver) :
    Prop where
  ofOperation : ∀ operation ∈ operations.operations, ∀ arguments limit,
    operation.execute arguments ≠ .error (.depthExceeded limit)
  ofVariable : ∀ name limit, resolver.claims name = true →
    resolver.value name ≠ .error (.depthExceeded limit)

section Unexceeded

variable {operations : OperationTable} {resolver : Resolver} {α β : Type}

/-- A result that is not the error of the limit. -/
def Unexceeded (result : Except EvaluationFailure α) : Prop :=
  ∀ failure limit, result = .error failure →
    failure.error ≠ .depthExceeded limit

theorem unexceeded_ok (value : α) : Unexceeded (.ok value) := by
  intro failure limit failed
  cases failed

theorem Unexceeded.bind {result : Except EvaluationFailure α}
    {next : α → Except EvaluationFailure β} (first : Unexceeded result)
    (second : ∀ value, Unexceeded (next value)) :
    Unexceeded (result >>= next) := by
  cases result with
  | ok value => exact second value
  | error failure =>
      intro other limit failed
      cases failed
      exact first failure limit rfl

theorem unexceeded_raised {outcome : Outcome}
    (unexceeded : ∀ limit, outcome ≠ .error (.depthExceeded limit)) :
    Unexceeded (outcome.mapError .raised) := by
  cases outcome with
  | ok value => exact unexceeded_ok value
  | error error =>
      intro failure limit failed same
      cases failed
      exact unexceeded limit (congrArg Except.error same)

theorem RaisesNoLimit.invoke (quiet : RaisesNoLimit operations resolver)
    {name : String} {operation : Operation}
    (found : operations.find? name = some operation)
    (arguments : List Value) (limit : Nat) :
    operation.invoke arguments ≠ .error (.depthExceeded limit) := by
  have member : operation ∈ operations.operations :=
    List.mem_of_find?_eq_some found
  unfold Operation.invoke
  split
  · split
    · exact quiet.ofOperation operation member arguments limit
    · intro same
      cases same
  · exact quiet.ofOperation operation member arguments limit

theorem RaisesNoLimit.apply (quiet : RaisesNoLimit operations resolver)
    (name : String) (arguments : List Value) :
    Unexceeded ((ofOperations operations).apply resolver name arguments) := by
  unfold Evaluator.apply
  split
  · next operation found =>
      exact unexceeded_raised (quiet.invoke found arguments)
  · split
    · next claimed =>
        exact unexceeded_raised fun limit =>
          quiet.ofVariable name limit claimed
    · intro failure limit failed same
      cases failed
      cases same

theorem RaisesNoLimit.nameValue (quiet : RaisesNoLimit operations resolver)
    (name : String) (limit : Nat) :
    (ofOperations operations).nameValue resolver name ≠
      .error (.depthExceeded limit) := by
  have asVariable : (if resolver.claims name then resolver.value name
      else .ok (.symbol name)) ≠ .error (.depthExceeded limit) := by
    split
    · next claimed => exact quiet.ofVariable name limit claimed
    · intro same
      cases same
  unfold Evaluator.nameValue
  simp only
  split
  · next operation found =>
      split
      · exact quiet.invoke found [] limit
      · exact asVariable
  · exact asVariable

mutual

/-- A call that may nest without a limit does not exceed one. -/
theorem RaisesNoLimit.call (quiet : RaisesNoLimit operations resolver)
    (items : List Expression) :
    Unexceeded (Unlimited.call operations resolver items) := by
  rcases items with _ | ⟨(_ | _ | _ | name) | inner, rest⟩
  case cons.atom.symbol =>
    rw [Unlimited.call]
    exact (quiet.arguments rest).bind (quiet.apply name)
  case cons.atom.integer => exact unexceeded_ok _
  case cons.atom.float => exact unexceeded_ok _
  case cons.atom.bool => exact unexceeded_ok _
  -- An empty call and a head that is a list fail in ways of their own.
  all_goals
    intro failure limit failed same
    rw [Unlimited.call] at failed
    cases failed
    cases same

theorem RaisesNoLimit.argument (quiet : RaisesNoLimit operations resolver)
    (expression : Expression) :
    Unexceeded (Unlimited.argument operations resolver expression) := by
  rcases expression with (_ | _ | _ | name) | items
  case atom.symbol => exact unexceeded_raised (quiet.nameValue name)
  case list => exact quiet.call items
  all_goals exact unexceeded_ok _

theorem RaisesNoLimit.arguments (quiet : RaisesNoLimit operations resolver)
    (items : List Expression) :
    Unexceeded (Unlimited.arguments operations resolver items) := by
  cases items with
  | nil => exact unexceeded_ok []
  | cons head rest =>
      rw [Unlimited.arguments]
      apply (quiet.argument head).bind
      intro value
      apply (quiet.arguments rest).bind
      intro values
      exact unexceeded_ok _

end

theorem RaisesNoLimit.outcome (quiet : RaisesNoLimit operations resolver)
    (expression : Expression) (limit : Nat) :
    Unlimited.outcome operations resolver expression ≠
      .error (.depthExceeded limit) := by
  have attempted :
      Unexceeded (Unlimited.attempt operations resolver expression) := by
    cases expression with
    | list items => exact quiet.call items
    | atom value => exact quiet.call [.atom value]
  intro same
  unfold Unlimited.outcome at same
  cases failed : Unlimited.attempt operations resolver expression with
  | ok value =>
      rw [failed] at same
      cases same
  | error failure =>
      rw [failed] at same
      exact attempted failure limit failed (Except.error.inj same)

/-- What is nested no deeper than the limit is evaluated as without one. -/
theorem evaluateWith_of_shallow {evaluator : Evaluator}
    {expression : Expression}
    (shallow : expression.asList.nesting ≤ evaluator.depthLimit) :
    evaluator.evaluateWith resolver expression =
      Unlimited.outcome evaluator.operations resolver expression := by
  have entered : Unlimited.depth evaluator.operations resolver expression ≤
      evaluator.depthLimit :=
    Nat.le_trans (Unlimited.depth_le_nesting expression) shallow
  rw [evaluateWith_eq, if_pos entered]

theorem RaisesNoLimit.evaluateWith (quiet : RaisesNoLimit operations resolver)
    {expression : Expression}
    (shallow : expression.asList.nesting ≤ maxNesting) (limit : Nat) :
    (ofOperations operations).evaluateWith resolver expression ≠
      .error (.depthExceeded limit) := by
  rw [evaluateWith_of_shallow shallow]
  exact quiet.outcome expression limit

end Unexceeded

end Evaluator

namespace OperationTable

theorem mem_of_mem_register {table : OperationTable}
    {operation added : Operation}
    (member : operation ∈ (table.register added).operations) :
    operation ∈ table.operations ∨ operation = added := by
  rcases List.mem_cons.mp member with same | other
  · exact .inr same
  · exact .inl (List.mem_filter.mp other).1

theorem mem_of_mem_registerAll {table : OperationTable}
    {operation : Operation} {added : List Operation}
    (member : operation ∈ (table.registerAll added).operations) :
    operation ∈ table.operations ∨ operation ∈ added := by
  induction added generalizing table with
  | nil => exact .inl member
  | cons first others induction =>
      rcases induction member with registered | later
      · rcases mem_of_mem_register registered with before | same
        · exact .inl before
        · exact .inr (same ▸ List.mem_cons_self)
      · exact .inr (List.mem_cons_of_mem first later)

end OperationTable

namespace Arithmetic

/-- An outcome of arithmetic on two numbers. -/
inductive Computed : Outcome → Prop where
  | integer (number : Int64) : Computed (.ok (.integer number))
  | float {number : Float} (finite : number.isFinite = true) :
      Computed (.ok (.float number))
  | violated (detail : String) : Computed (.error (.constraint detail))

theorem computed_checkedInteger (name : String) (exact : Int) :
    Computed (checkedInteger name exact) := by
  unfold checkedInteger
  split
  · exact .integer _
  · exact .violated _

theorem computed_checkedFloat (name : String) (number : Float) :
    Computed (checkedFloat name number) := by
  unfold checkedFloat
  split
  · next finite => exact .float finite
  · exact .violated _

theorem computed_quotient (name : String) (pair : Value × Value) :
    Computed (quotient name pair) := by
  unfold quotient
  split
  · simp only
    split
    · exact .integer _
    · exact computed_checkedFloat _ _
  · exact computed_checkedFloat _ _

/-- An operation computes with its operands, if it has any. -/
def ComputesWithOperands (operation : Operation) : Prop :=
  ∀ arguments,
    (∃ pair, operands operation.name arguments = .ok pair ∧
      Computed (operation.execute arguments)) ∨
    ∃ error, operands operation.name arguments = .error error ∧
      operation.execute arguments = .error error

theorem computes_binary (name : String) (exact : Int → Int → Int)
    (rounded : Float → Float → Float) :
    ComputesWithOperands (binary name exact rounded) := by
  intro arguments
  unfold binary
  simp only
  generalize operands name arguments = found
  cases found with
  | error error => exact .inr ⟨error, rfl, rfl⟩
  | ok pair =>
      refine .inl ⟨pair, rfl, ?_⟩
      rcases pair with ⟨left, right⟩
      rcases left with _ | _ | _ | _ <;> rcases right with _ | _ | _ | _
      case integer.integer => exact computed_checkedInteger _ _
      all_goals exact computed_checkedFloat _ _

theorem computes_divide : ComputesWithOperands divide := by
  intro arguments
  unfold divide
  simp only
  generalize operands "divide" arguments = found
  cases found with
  | error error => exact .inr ⟨error, rfl, rfl⟩
  | ok pair =>
      refine .inl ⟨pair, rfl, ?_⟩
      change Computed (if isZero pair.2 then _ else _)
      split
      · exact .violated _
      · exact computed_quotient _ pair

theorem computes_stock {operation : Operation} (member : operation ∈ stock) :
    ComputesWithOperands operation := by
  simp only [stock, List.mem_cons, List.not_mem_nil, or_false] at member
  rcases member with rfl | rfl | rfl | rfl
  · exact computes_binary _ _ _
  · exact computes_binary _ _ _
  · exact computes_binary _ _ _
  · exact computes_divide

/-- On two numbers a stock operation computes. -/
theorem computed_execute {operation : Operation} (member : operation ∈ stock)
    {left right : Value} (first : left.isNumber = true)
    (second : right.isNumber = true) :
    Computed (operation.execute [left, right]) := by
  have taken : operands operation.name [left, right] = .ok (left, right) := by
    rw [operands, first, second]
    rfl
  rcases computes_stock member [left, right] with
    ⟨_, _, computed⟩ | ⟨error, refused, _⟩
  · exact computed
  · exact nomatch taken.symm.trans refused

theorem operands_ne_depthExceeded (name : String) (arguments : List Value)
    (limit : Nat) :
    operands name arguments ≠ .error (.depthExceeded limit) := by
  unfold operands
  split
  · split
    · exact nofun
    · exact nofun
  · exact nofun

theorem raisesNoLimit_table :
    Evaluator.RaisesNoLimit table .nothing where
  ofOperation := by
    intro operation member arguments limit
    have inStock : operation ∈ stock :=
      (OperationTable.mem_of_mem_registerAll member).resolve_left nofun
    rcases computes_stock inStock arguments with
      ⟨pair, _, computed⟩ | ⟨error, refused, failed⟩
    · generalize operation.execute arguments = outcome at computed
      cases computed <;> exact nofun
    · intro same
      rw [failed] at same
      have raised : error = .depthExceeded limit := Except.error.inj same
      exact operands_ne_depthExceeded _ _ limit (raised ▸ refused)
  ofVariable name limit claimed := nomatch claimed

end Arithmetic

end GrammaticalEvolution
