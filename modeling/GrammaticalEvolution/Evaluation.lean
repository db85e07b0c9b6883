import GrammaticalEvolution.Journal
import GrammaticalEvolution.Operation.Arithmetic

/-!
# Evaluation of expressions

A list is a call: its head names an operation, which is executed on the values
of the other items.  A literal in head position is the value of the whole list.
Names that stand for no operation may be variables; as arguments they stand
for themselves otherwise.  Calls may be nested up to a limit, and the outermost
call counts.
-/

namespace GrammaticalEvolution

/-- Names that evaluation takes for variables, and their values. -/
structure Resolver where
  claims : String → Bool
  value : String → Outcome

namespace Resolver

def nothing : Resolver :=
  ⟨fun _ => false, fun name => .error (.unresolvable name)⟩

/-- The names of a list of bindings, the first binding of a name counting. -/
def ofBindings (bindings : List (String × Value)) : Resolver :=
  { claims := fun name => (bindings.lookup name).isSome
    value := fun name => match bindings.lookup name with
      | some value => .ok value
      | none => .error (.unresolvable name) }

end Resolver

/-- Operations and the number of calls that may be nested. -/
structure Evaluator where
  operations : OperationTable
  depthLimit : Nat
  limited : depthLimit ≤ maxNesting

namespace Evaluator

def ofOperations (operations : OperationTable) : Evaluator :=
  ⟨operations, maxNesting, Nat.le_refl _⟩

/-- Change the limit, which never exceeds the widest one. -/
def withDepthLimit (evaluator : Evaluator) (limit : Nat) : Evaluator :=
  ⟨evaluator.operations, min limit maxNesting, Nat.min_le_right _ _⟩

def arithmetic : Evaluator :=
  ofOperations Arithmetic.table

end Evaluator

/-- Where an evaluation failed: at a head that names neither an operation nor
a variable, or for a reason given as an error. -/
inductive EvaluationFailure where
  | unknownHead (name : String) (arguments : Nat)
  | raised (error : EvaluationError)
deriving DecidableEq, Repr

namespace EvaluationFailure

def error : EvaluationFailure → EvaluationError
  | .unknownHead name _ => .unresolvable name
  | .raised error => error

/-- The part of the library that warnings of evaluation come from. -/
def target : String := "gacore::engines::evaluation::evaluator"

def journal : EvaluationFailure → Journal
  | .unknownHead name arguments =>
      #[⟨.warn, target,
        s!"Cannot resolve call to {name} with {arguments} args"⟩]
  | .raised _ => #[]

end EvaluationFailure

namespace Evaluator

/-- What stands behind an argument that is a name: an operation without
arguments is executed, a variable has its value, and any other name stands for
itself. -/
def nameValue (evaluator : Evaluator) (resolver : Resolver) (name : String) :
    Outcome :=
  let asVariable : Outcome :=
    if resolver.claims name then resolver.value name else .ok (.symbol name)
  match evaluator.operations.find? name with
  | some operation =>
      if operation.arity = some 0 then operation.invoke [] else asVariable
  | none => asVariable

/-- Call the operation or variable that a head names. -/
def apply (evaluator : Evaluator) (resolver : Resolver) (name : String)
    (arguments : List Value) : Except EvaluationFailure Value :=
  match evaluator.operations.find? name with
  | some operation => (operation.invoke arguments).mapError .raised
  | none =>
      if resolver.claims name then (resolver.value name).mapError .raised
      else .error (.unknownHead name arguments.length)

mutual

/-- The value of a call, with room for that many nested calls including this
one. -/
def call (evaluator : Evaluator) (resolver : Resolver) :
    (room : Nat) → List Expression → Except EvaluationFailure Value
  | 0, _ => .error (.raised (.depthExceeded evaluator.depthLimit))
  | _ + 1, [] => .error (.raised .emptyExpression)
  | _ + 1, .list items :: _ =>
      .error (.raised (.unresolvable
        ("non-invocable head " ++ (Expression.list items).display)))
  | room + 1, .atom (.symbol name) :: rest => do
      let values ← arguments evaluator resolver room rest
      apply evaluator resolver name values
  | _ + 1, .atom literal :: _ => .ok literal

def argument (evaluator : Evaluator) (resolver : Resolver) :
    (room : Nat) → Expression → Except EvaluationFailure Value
  | room, .list items => call evaluator resolver room items
  | _, .atom (.symbol name) =>
      (nameValue evaluator resolver name).mapError .raised
  | _, .atom literal => .ok literal

/-- The values of arguments, from left to right up to the first failure. -/
def arguments (evaluator : Evaluator) (resolver : Resolver) :
    (room : Nat) → List Expression → Except EvaluationFailure (List Value)
  | _, [] => .ok []
  | room, expression :: rest => do
      let value ← argument evaluator resolver room expression
      let values ← arguments evaluator resolver room rest
      return value :: values

end

/-- Evaluate an expression; a leaf is a call without arguments. -/
def attempt (evaluator : Evaluator) (resolver : Resolver)
    (expression : Expression) : Except EvaluationFailure Value :=
  match expression with
  | .list items => call evaluator resolver evaluator.depthLimit items
  | .atom value => call evaluator resolver evaluator.depthLimit [.atom value]

/-- The outcome of an expression with variables. -/
def evaluateWith (evaluator : Evaluator) (resolver : Resolver)
    (expression : Expression) : Outcome :=
  (evaluator.attempt resolver expression).mapError EvaluationFailure.error

/-- The outcome of an expression without variables. -/
def evaluate (evaluator : Evaluator) (expression : Expression) : Outcome :=
  evaluator.evaluateWith .nothing expression

/-- The outcome of an expression, with what was noted on the way. -/
def report (evaluator : Evaluator) (resolver : Resolver)
    (expression : Expression) : Journaled Outcome :=
  match evaluator.attempt resolver expression with
  | .ok value => ⟨.ok value, #[]⟩
  | .error failure => ⟨.error failure.error, failure.journal⟩

/-- What is noted does not change the outcome. -/
@[simp] theorem value_report (evaluator : Evaluator) (resolver : Resolver)
    (expression : Expression) :
    (evaluator.report resolver expression).value =
      evaluator.evaluateWith resolver expression := by
  unfold report evaluateWith
  cases evaluator.attempt resolver expression <;> rfl

end Evaluator

end GrammaticalEvolution
