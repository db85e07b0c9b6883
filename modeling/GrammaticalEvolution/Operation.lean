import GrammaticalEvolution.Expression.Display

/-!
# Operations and their errors

An operation turns a list of values into a value or an error.  It declares how
many arguments it takes, unless it takes any number of them.
-/

namespace GrammaticalEvolution

/-- Why an evaluation has no value. -/
inductive EvaluationError where
  /-- An operation declares its combination of arguments invalid. -/
  | constraint (detail : String)
  /-- A name or a head that stands for nothing callable. -/
  | unresolvable (detail : String)
  | arity (operation : String) (expected actual : Nat)
  | type (operation detail : String)
  | depthExceeded (limit : Nat)
  | emptyExpression
deriving DecidableEq, Repr

def EvaluationError.message : EvaluationError → String
  | .constraint detail => "Expression constraint violated: " ++ detail
  | .unresolvable detail => "Unresolvable call: " ++ detail
  | .arity operation expected actual =>
      s!"Function {operation} expects {expected} arguments, got {actual}"
  | .type operation detail => s!"Type error in {operation}: {detail}"
  | .depthExceeded limit =>
      s!"Expression nesting exceeds depth limit {limit}"
  | .emptyExpression => "Cannot evaluate an empty expression"

abbrev Outcome := Except EvaluationError Value

/-- A named operation; without an arity it takes any number of arguments. -/
structure Operation where
  name : String
  arity : Option Nat
  execute : List Value → Outcome

namespace Operation

/-- Whether the operation takes that many arguments. -/
def accepts (operation : Operation) (count : Nat) : Bool :=
  match operation.arity with
  | some expected => expected == count
  | none => true

/-- Execute after checking the number of arguments. -/
def invoke (operation : Operation) (arguments : List Value) : Outcome :=
  match operation.arity with
  | some expected =>
      if expected = arguments.length then operation.execute arguments
      else .error (.arity operation.name expected arguments.length)
  | none => operation.execute arguments

/-- The operation with its declared number of arguments. -/
def describe (operation : Operation) : String :=
  let arity := match operation.arity with
    | some expected => s!"Some({expected})"
    | none => "None"
  "FnPrimitive \x7b alias: " ++ Text.quoted operation.name ++ ", arity: " ++
    arity ++ " \x7d"

end Operation

end GrammaticalEvolution
