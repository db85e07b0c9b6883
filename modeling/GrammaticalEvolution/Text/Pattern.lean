import GrammaticalEvolution.Text.CharSet

/-!
# Patterns of text

A pattern describes pieces of a text.  Between and around the characters of a
text are its places; from the places where a piece may start follow those where
it may end, for all starts at once.  Repetition adds ends until no new one
appears, so that finding out whether a pattern occurs always comes to an end.
-/

namespace GrammaticalEvolution.Text

/-- A place in a text: the characters next to it, which are missing at the two
ends. -/
structure Place where
  before : Option Char
  after : Option Char
deriving DecidableEq, Repr

/-- The places of a text, after a character that may stand before it. -/
def placesFrom (before : Option Char) : List Char → List Place
  | [] => [⟨before, none⟩]
  | char :: rest => ⟨before, some char⟩ :: placesFrom (some char) rest

/-- A condition on a place.  Line ends are line feeds alone or, for the two
conditions that say so, carriage returns as well. -/
inductive Assertion where
  | textStart
  | textEnd
  | lineStart
  | lineEnd
  | returnLineStart
  | returnLineEnd
  | wordEdge
  | noWordEdge
  | wordStart
  | wordEnd
  | wordStartHalf
  | wordEndHalf
deriving DecidableEq, Repr

/-- Characters that words consist of: letters and digits of the first 128
characters and the underscore. -/
def isWordChar (char : Char) : Bool :=
  char.isAlphanum || char == '_'

namespace Assertion

def holds (assertion : Assertion) (place : Place) : Bool :=
  let wordBefore := place.before.any isWordChar
  let wordAfter := place.after.any isWordChar
  match assertion with
  | .textStart => place.before == none
  | .textEnd => place.after == none
  | .lineStart => place.before == none || place.before == some '\n'
  | .lineEnd => place.after == none || place.after == some '\n'
  | .returnLineStart =>
      place.before == none || place.before == some '\n' ||
        (place.before == some '\r' && place.after != some '\n')
  | .returnLineEnd =>
      place.after == none || place.after == some '\r' ||
        (place.after == some '\n' && place.before != some '\r')
  | .wordEdge => wordBefore != wordAfter
  | .noWordEdge => wordBefore == wordAfter
  | .wordStart => !wordBefore && wordAfter
  | .wordEnd => wordBefore && !wordAfter
  | .wordStartHalf => !wordBefore
  | .wordEndHalf => !wordAfter

end Assertion

/-- What pieces of a text look like. -/
inductive Pattern where
  | empty
  | single (set : CharSet)
  | assertion (condition : Assertion)
  | sequence (first second : Pattern)
  | choice (first second : Pattern)
  | repeated (body : Pattern) (least : Nat) (most : Option Nat)
deriving DecidableEq, Repr

/-- For every place of a text, whether it is marked. -/
abbrev Marks := List Bool

namespace Marks

def either (first second : Marks) : Marks :=
  first.zipWith (· || ·) second

def across (set : CharSet) (places : List Place) (marks : Marks) : Marks :=
  false :: (places.zipWith
    (fun place mark => mark && place.after.any set.contains) marks).dropLast

/-- Keep the marks of places where a condition holds. -/
def filter (condition : Assertion) (places : List Place) (marks : Marks) :
    Marks :=
  places.zipWith (fun place mark => mark && condition.holds place) marks

/-- Apply a step a number of times, or until it changes nothing. -/
def iterate (step : Marks → Marks) : (count : Nat) → Marks → Marks
  | 0, marks => marks
  | count + 1, marks =>
      let next := step marks
      if next = marks then marks else iterate step count next

/-- Add what a step makes of the marks, at most so many times. -/
def spread (step : Marks → Marks) : (count : Nat) → Marks → Marks :=
  iterate fun marks => either marks (step marks)

end Marks

namespace Pattern

/-- The places where pieces may end that start at marked places. -/
def ends (places : List Place) : Pattern → Marks → Marks
  | .empty, marks => marks
  | .single set, marks => marks.across set places
  | .assertion condition, marks => marks.filter condition places
  | .sequence first second, marks =>
      ends places second (ends places first marks)
  | .choice first second, marks =>
      (ends places first marks).either (ends places second marks)
  | .repeated body least most, marks =>
      let start := Marks.iterate (ends places body) least marks
      match most with
      | some most => Marks.spread (ends places body) (most - least) start
      | none => Marks.spread (ends places body) places.length start

/-- Whether some piece of a text fits the pattern. -/
def occursIn (pattern : Pattern) (text : List Char) : Bool :=
  let places := placesFrom none text
  (pattern.ends places (places.map fun _ => true)).contains true

def row : List Pattern → Pattern
  | [] => .empty
  | [pattern] => pattern
  | pattern :: rest => .sequence pattern (row rest)

def choices (first : Pattern) : List Pattern → Pattern
  | [] => first
  | second :: rest => .choice first (choices second rest)

/-- How much room the pattern takes when all repetitions are written out. -/
def weight : Pattern → Nat
  | .empty => 1
  | .single set => if set.isAscii then 1 else 8
  | .assertion _ => 1
  | .sequence first second => first.weight + second.weight
  | .choice first second => first.weight + second.weight + 1
  | .repeated body least most =>
      body.weight * max least (most.getD (least + 1)) + 1

end Pattern

end GrammaticalEvolution.Text
