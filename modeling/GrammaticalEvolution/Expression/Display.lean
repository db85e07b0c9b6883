import GrammaticalEvolution.Expression
import GrammaticalEvolution.Text.Quoted

/-!
# Texts of expressions

The display of an expression shows lists in brackets and leaves as they are,
symbols without quotation marks.  The description names every constructor, so
that different expressions have different descriptions.
-/

namespace GrammaticalEvolution

open Decimal Text

def integerText (number : Int64) : String :=
  String.ofList (integerChars number.toInt)

def truthText (truth : Bool) : String :=
  if truth then "true" else "false"

namespace Value

def display : Value → String
  | .integer number => integerText number
  | .float number => Layout.plain.write number
  | .bool truth => truthText truth
  | .symbol name => name

def describe : Value → String
  | .integer number => "Integer(" ++ integerText number ++ ")"
  | .float number => "Float(" ++ Layout.described.write number ++ ")"
  | .bool truth => "Bool(" ++ truthText truth ++ ")"
  | .symbol name => "Symbol(" ++ quoted name ++ ")"

end Value

namespace Expression

mutual

def display : Expression → String
  | .atom value => value.display
  | .list items => bracketed (displayItems items)

def displayItems : List Expression → List String
  | [] => []
  | item :: items => item.display :: displayItems items

end

mutual

/-- The expression with the names of its constructors. -/
def describe : Expression → String
  | .atom value => "Atom(" ++ value.describe ++ ")"
  | .list items => "List(" ++ bracketed (describeItems items) ++ ")"

def describeItems : List Expression → List String
  | [] => []
  | item :: items => item.describe :: describeItems items

end

end Expression

end GrammaticalEvolution
