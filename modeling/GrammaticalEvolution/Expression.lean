/-!
# Prefix expressions

An expression is a tree of lists whose leaves are values.  Read as a program, a
list is a call site: its first item names an operation and the others are the
arguments.  Everything here is structural, so that proofs can follow the tree
and its item lists together.
-/

namespace GrammaticalEvolution

/-- Deepest nesting that derivations and evaluations descend into. -/
def maxNesting : Nat := 512

/-- The leaf of an expression: a 64-bit integer, a binary64 number, a truth
value, or a symbol such as an operation or variable name. -/
inductive Value where
  | integer (number : Int64)
  | float (number : Float)
  | bool (truth : Bool)
  | symbol (name : String)
deriving DecidableEq, Inhabited

/-- A prefix tree: a leaf, or a list of expressions. -/
inductive Expression where
  | atom (value : Value)
  | list (items : List Expression)
deriving Inhabited

/-- The binary64 number nearest to an integer, a tie going to the even one. -/
def Int64.nearestFloat (number : Int64) : Float :=
  let magnitude := number.toInt.natAbs.toUInt64.toFloat
  if number.toInt < 0 then -magnitude else magnitude

namespace Value

def isNumber : Value → Bool
  | .integer _ => true
  | .float _ => true
  | _ => false

/-- The value as a binary64 number; only numbers have one. -/
def toFloat? : Value → Option Float
  | .integer number => some (Int64.nearestFloat number)
  | .float number => some number
  | _ => none

def symbol? : Value → Option String
  | .symbol name => some name
  | _ => none

/-- Equality of values as they compare: a float equals a float of the same
number, so the two zeros agree and a NaN agrees with nothing. -/
def agrees : Value → Value → Bool
  | .integer left, .integer right => left == right
  | .float left, .float right => left == right
  | .bool left, .bool right => left == right
  | .symbol left, .symbol right => left == right
  | _, _ => false

end Value

namespace Expression

def symbol (name : String) : Expression :=
  .atom (.symbol name)

def integer (number : Int64) : Expression :=
  .atom (.integer number)

def isList : Expression → Bool
  | .atom _ => false
  | .list _ => true

/-- The expression as a list: a bare leaf becomes a list of one item. -/
def asList : Expression → Expression
  | .atom value => .list [.atom value]
  | .list items => .list items

mutual

def nodeCount : Expression → Nat
  | .atom _ => 1
  | .list items => 1 + nodeCountList items

def nodeCountList : List Expression → Nat
  | [] => 0
  | item :: items => item.nodeCount + nodeCountList items

end

mutual

/-- How many lists lie around the innermost node; a leaf has none. -/
def nesting : Expression → Nat
  | .atom _ => 0
  | .list items => 1 + nestingList items

def nestingList : List Expression → Nat
  | [] => 0
  | item :: items => max item.nesting (nestingList items)

end

mutual

/-- Equality of trees whose leaves are compared by `Value.agrees`. -/
def agrees : Expression → Expression → Bool
  | .atom left, .atom right => left.agrees right
  | .list left, .list right => agreesList left right
  | _, _ => false

def agreesList : List Expression → List Expression → Bool
  | [], [] => true
  | left :: lefts, right :: rights =>
      left.agrees right && agreesList lefts rights
  | _, _ => false

end

mutual

/-- Whether two expressions are the same tree, leaf for leaf. -/
def decEq : (left right : Expression) → Decidable (left = right)
  | .atom left, .atom right =>
      if same : left = right then isTrue (by rw [same])
      else isFalse (fun equality => same (Expression.atom.inj equality))
  | .list left, .list right =>
      match decEqList left right with
      | isTrue same => isTrue (by rw [same])
      | isFalse different =>
          isFalse (fun equality => different (Expression.list.inj equality))
  | .atom _, .list _ => isFalse (fun equality => nomatch equality)
  | .list _, .atom _ => isFalse (fun equality => nomatch equality)

def decEqList : (left right : List Expression) → Decidable (left = right)
  | [], [] => isTrue rfl
  | [], _ :: _ => isFalse (fun equality => nomatch equality)
  | _ :: _, [] => isFalse (fun equality => nomatch equality)
  | left :: lefts, right :: rights =>
      match decEq left right, decEqList lefts rights with
      | isTrue same, isTrue sameRest => isTrue (by rw [same, sameRest])
      | isFalse different, _ =>
          isFalse (fun equality => different (List.cons.inj equality).1)
      | _, isFalse different =>
          isFalse (fun equality => different (List.cons.inj equality).2)

end

instance : DecidableEq Expression := decEq

@[simp] theorem asList_list (items : List Expression) :
    (Expression.list items).asList = .list items := rfl

@[simp] theorem isList_asList (expression : Expression) :
    expression.asList.isList = true := by
  cases expression <;> rfl

end Expression

end GrammaticalEvolution
