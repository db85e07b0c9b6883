import GrammaticalEvolution.Operation.Table

/-!
# Stock arithmetic

Four operations on two numbers.  Integers stay integers as long as the exact
result is one within the 64-bit range.  A sum, difference or product outside
the range, a result that is no finite number and a zero divisor violate a
constraint; a quotient that is no integer of the range is a float.
-/

namespace GrammaticalEvolution.Arithmetic

/-- The two numbers that an operation works on. -/
def operands (name : String) :
    List Value → Except EvaluationError (Value × Value)
  | [left, right] =>
      if left.isNumber && right.isNumber then .ok (left, right)
      else .error (.type name
        ("expected numbers, got " ++ left.display ++ " and " ++ right.display))
  | arguments => .error (.arity name 2 arguments.length)

/-- Whether an exact integer lies in the 64-bit range. -/
def inRange (exact : Int) : Bool :=
  Int64.minValue.toInt ≤ exact && exact ≤ Int64.maxValue.toInt

/-- An exact integer result, which must lie in the range. -/
def checkedInteger (name : String) (exact : Int) : Outcome :=
  if inRange exact then .ok (.integer (Int64.ofInt exact))
  else .error (.constraint (name ++ " overflowed"))

/-- A float result, which must be a finite number. -/
def checkedFloat (name : String) (number : Float) : Outcome :=
  if number.isFinite then .ok (.float number)
  else .error (.constraint (name ++ " produced a non-finite result"))

/-- A value as a float; only numbers are asked for. -/
def floatOf (value : Value) : Float :=
  value.toFloat?.getD 0.0

/-- Whether a value is the float zero once it is a float. -/
def isZero (value : Value) : Bool :=
  value.toFloat?.any (· == 0.0)

/-- An operation that is exact on integers and rounds otherwise. -/
def binary (name : String) (exact : Int → Int → Int)
    (rounded : Float → Float → Float) : Operation :=
  { name := name
    arity := some 2
    execute := fun arguments => do
      match ← operands name arguments with
      | (.integer left, .integer right) =>
          checkedInteger name (exact left.toInt right.toInt)
      | (left, right) =>
          checkedFloat name (rounded (floatOf left) (floatOf right)) }

def add : Operation :=
  binary "add" (· + ·) (· + ·)

def subtract : Operation :=
  binary "subtract" (· - ·) (· - ·)

def multiply : Operation :=
  binary "multiply" (· * ·) (· * ·)

/-- The quotient of two numbers whose divisor is not zero. -/
def quotient (name : String) : Value × Value → Outcome
  | (.integer left, .integer right) =>
      let exact := Int.tdiv left.toInt right.toInt
      if Int.tmod left.toInt right.toInt = 0 ∧ inRange exact then
        .ok (.integer (Int64.ofInt exact))
      else checkedFloat name
        (Int64.nearestFloat left / Int64.nearestFloat right)
  | (left, right) => checkedFloat name (floatOf left / floatOf right)

def divide : Operation :=
  { name := "divide"
    arity := some 2
    execute := fun arguments => do
      let pair ← operands "divide" arguments
      if isZero pair.2 then .error (.constraint "division by zero")
      else quotient "divide" pair }

def stock : List Operation :=
  [add, subtract, multiply, divide]

def table : OperationTable :=
  OperationTable.empty.registerAll stock

end GrammaticalEvolution.Arithmetic
