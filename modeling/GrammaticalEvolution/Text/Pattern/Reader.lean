import GrammaticalEvolution.Decimal.Literal
import GrammaticalEvolution.Text.Blank
import GrammaticalEvolution.Text.Hex
import GrammaticalEvolution.Text.Pattern

/-!
# Patterns read from text

Patterns are spelt as regular expressions: characters, classes in brackets,
groups, choices, repetitions and conditions.  Options in a group change how the
rest of the group is read.  Unless an option narrows a pattern to the first 128
characters, neither classes of words, digits and blanks nor word edges nor
letters of either case are understood.  A text that breaks a rule spells no
pattern at all.
-/

namespace GrammaticalEvolution.Text

namespace Pattern

open Decimal

/-- How a part of a pattern is read. -/
structure Options where
  anyCase : Bool := false
  manyLines : Bool := false
  dotAll : Bool := false
  returns : Bool := false
  narrow : Bool := false
  spaced : Bool := false

/-- Leave out what a spaced pattern does not count: white space and comments
up to the end of a line. -/
def skipSpace : (inComment : Bool) → List Char → List Char
  | _, [] => []
  | true, char :: rest => skipSpace (char != '\n') rest
  | false, char :: rest =>
      if isBlank char then skipSpace false rest
      else if char = '#' then skipSpace true rest
      else char :: rest

namespace Options

def skip (options : Options) (chars : List Char) : List Char :=
  if options.spaced then skipSpace false chars else chars

/-- The assertion that a line, or the whole text, starts. -/
def start (options : Options) : Assertion :=
  if !options.manyLines then .textStart
  else if options.returns then .returnLineStart
  else .lineStart

/-- The assertion that a line, or the whole text, ends. -/
def stop (options : Options) : Assertion :=
  if !options.manyLines then .textEnd
  else if options.returns then .returnLineEnd
  else .lineEnd

/-- All characters, or all that do not end a line. -/
def dot? (options : Options) : Option CharSet :=
  if options.narrow then none
  else if options.dotAll then some CharSet.empty.complement
  else if options.returns then
    some ((CharSet.single '\n').union (CharSet.single '\r')).complement
  else some (CharSet.single '\n').complement

def fold? (options : Options) (set : CharSet) : Option CharSet :=
  if !options.anyCase then some set
  else if options.narrow then some set.bothCases
  else if set = .empty then some set
  else none

/-- A complete class, perhaps turned into its complement. -/
def finish? (options : Options) (negated : Bool) (set : CharSet) :
    Option CharSet := do
  let folded ← options.fold? set
  let finished := if negated then folded.complement else folded
  if options.narrow && !finished.isAscii then none else return finished

def char? (options : Options) (char : Char) : Option CharSet :=
  if char.toNat ≤ 0x7f || !options.narrow then
    options.fold? (CharSet.single char)
  else some (CharSet.single char)

def switch? (options : Options) (value : Bool) : Char → Option Options
  | 'i' => some { options with anyCase := value }
  | 'm' => some { options with manyLines := value }
  | 's' => some { options with dotAll := value }
  | 'R' => some { options with returns := value }
  | 'u' => some { options with narrow := !value }
  | 'x' => some { options with spaced := value }
  | 'U' => some options
  | _ => none

/-- Switch options by letters up to a colon or a closing parenthesis, which is
told as well.  After a minus they are switched off.  No letter may come
twice, and neither may the minus, which must not be the last one. -/
def switchAll? (options : Options) (seen : List Char) :
    List Char → Option (Options × Char × List Char)
  | [] => none
  | char :: rest =>
      if char = ':' ∨ char = ')' then
        if seen.head? = some '-' then none
        else some (options, char, rest)
      else if seen.contains char then none
      else if char = '-' then options.switchAll? ('-' :: seen) rest
      else do
        let switched ← options.switch? (!seen.contains '-') char
        switched.switchAll? (char :: seen) rest

end Options

/-! ## Escapes -/

/-- What an escape stands for. -/
inductive Escaped where
  | char (char : Char)
  | set (set : CharSet)
  | condition (condition : Assertion)

def digits : CharSet := ⟨[(48, 57)]⟩

def blanks : CharSet := ⟨[(9, 13), (32, 32)]⟩

def wordChars : CharSet := ⟨[(48, 57), (65, 90), (95, 95), (97, 122)]⟩

/-- The set of a letter that stands for a class; an upper case letter stands
for the complement. -/
def classOf? : Char → Option (Bool × CharSet)
  | 'd' => some (false, digits)
  | 'D' => some (true, digits)
  | 's' => some (false, blanks)
  | 'S' => some (true, blanks)
  | 'w' => some (false, wordChars)
  | 'W' => some (true, wordChars)
  | _ => none

def controlOf? : Char → Option Char
  | 'a' => some '\x07'
  | 'f' => some '\x0c'
  | 'n' => some '\n'
  | 'r' => some '\r'
  | 't' => some '\t'
  | 'v' => some '\x0b'
  | _ => none

/-- Whether a character stands for itself after a backslash. -/
def isEscapable (char : Char) : Bool :=
  char.toNat ≤ 0x7f && !char.isAlphanum && char != '<' && char != '>'

/-- The number of hexadecimal digits after a letter. -/
def codeLength? : Char → Option Nat
  | 'x' => some 2
  | 'u' => some 4
  | 'U' => some 8
  | _ => none

def readHex? (options : Options) : (count : Nat) → List Char →
    Option (List Nat × List Char)
  | 0, chars => some ([], chars)
  | _ + 1, [] => none
  | count + 1, char :: rest => do
      let digit ← hexValue? char
      let (digits, rest) ← readHex? options count (options.skip rest)
      return (digit :: digits, rest)

/-- Hexadecimal digits up to a closing brace, at most so many characters. -/
def readBraced? (options : Options) : (most : Nat) → List Char →
    Option (List Nat × List Char)
  | _ + 1, '\x7d' :: rest => some ([], options.skip rest)
  | most + 1, char :: rest => do
      let digit ← hexValue? char
      let (digits, rest) ← readBraced? options most (options.skip rest)
      return (digit :: digits, rest)
  | _, _ => none

/-- A code point after the letter of its escape.  Two digits stand for a byte,
which is no character by itself beyond the first 128. -/
def readCode? (options : Options) (count : Nat) (chars : List Char) :
    Option (Char × List Char) :=
  match options.skip chars with
  | '\x7b' :: rest => do
      let (digits, rest) ←
        readBraced? options (rest.length + 1) (options.skip rest)
      return (← charOfHex? digits, rest)
  | rest => do
      let (digits, rest) ← readHex? options count rest
      let char ← charOfHex? digits
      if options.narrow ∧ count = 2 ∧ 0x7f < char.toNat then none
      else return (char, rest)

/-- A condition named in braces after the letter of word edges, if that is what
stands there. -/
def readEdge? (options : Options) (chars : List Char) :
    Option (Assertion × List Char) :=
  let isNameChar (char : Char) : Bool := char.isAlpha || char == '-'
  match chars with
  | '\x7b' :: rest =>
      let start := options.skip rest
      if start.head?.any isNameChar then
        let name := String.ofList (start.takeWhile isNameChar)
        match name, start.dropWhile isNameChar with
        | "start", '\x7d' :: rest => some (.wordStart, rest)
        | "end", '\x7d' :: rest => some (.wordEnd, rest)
        | "start-half", '\x7d' :: rest => some (.wordStartHalf, rest)
        | "end-half", '\x7d' :: rest => some (.wordEndHalf, rest)
        | _, _ => none
      else if start = [] then none
      else some (.wordEdge, chars)
  | chars => some (.wordEdge, chars)

/-- A condition on word edges by the letter of its escape. -/
def readWord? (options : Options) : Char → List Char →
    Option (Assertion × List Char)
  | 'b', chars => readEdge? options chars
  | 'B', chars => some (.noWordEdge, chars)
  | '<', chars => some (.wordStart, chars)
  | '>', chars => some (.wordEnd, chars)
  | _, _ => none

def readEscape? (options : Options) : List Char →
    Option (Escaped × List Char)
  | [] => none
  | 'A' :: rest => some (.condition .textStart, rest)
  | 'z' :: rest => some (.condition .textEnd, rest)
  | char :: rest =>
      if isEscapable char then some (.char char, rest)
      else match codeLength? char, controlOf? char, classOf? char with
      | some count, _, _ => do
          let (char, rest) ← readCode? options count rest
          return (.char char, rest)
      | none, some control, _ => some (.char control, rest)
      | none, none, some (negated, set) =>
          if options.narrow && !negated then some (.set set, rest) else none
      | none, none, none =>
          if options.narrow then do
            let (condition, rest) ← readWord? options char rest
            return (.condition condition, rest)
          else none

/-! ## Classes -/

/-- Classes with a name, all of the first 128 characters. -/
def namedClass? : String → Option CharSet
  | "alnum" => some ⟨[(48, 57), (65, 90), (97, 122)]⟩
  | "alpha" => some ⟨[(65, 90), (97, 122)]⟩
  | "ascii" => some ⟨[(0, 127)]⟩
  | "blank" => some ⟨[(9, 9), (32, 32)]⟩
  | "cntrl" => some ⟨[(0, 31), (127, 127)]⟩
  | "digit" => some digits
  | "graph" => some ⟨[(33, 126)]⟩
  | "lower" => some ⟨[(97, 122)]⟩
  | "print" => some ⟨[(32, 126)]⟩
  | "punct" => some ⟨[(33, 47), (58, 64), (91, 96), (123, 126)]⟩
  | "space" => some blanks
  | "upper" => some ⟨[(65, 90)]⟩
  | "word" => some wordChars
  | "xdigit" => some ⟨[(48, 57), (65, 70), (97, 102)]⟩
  | _ => none

/-- A named class between colons and brackets, after the opening bracket: its
set, whether its complement is meant, and what follows. -/
def readNamed? : List Char → Option (Bool × CharSet × List Char)
  | ':' :: rest =>
      let (negated, rest) := match rest with
        | '^' :: rest => (true, rest)
        | rest => (false, rest)
      match rest.dropWhile (· != ':') with
      | ':' :: ']' :: later => do
          let set ← namedClass? (String.ofList (rest.takeWhile (· != ':')))
          return (negated, set, later)
      | _ => none
  | _ => none

/-- How two parts of a class are combined. -/
inductive SetOperation where
  | intersection
  | difference
  | symmetricDifference

def SetOperation.apply : SetOperation → CharSet → CharSet → CharSet
  | .intersection, left, right => left.intersection right
  | .difference, left, right => left.difference right
  | .symmetricDifference, left, right => left.symmetricDifference right

/-- The operation that two equal characters stand for. -/
def operationOf? : Char → Option SetOperation
  | '&' => some .intersection
  | '-' => some .difference
  | '~' => some .symmetricDifference
  | _ => none

/-- A class as far as it is read: what its last operation still waits for, the
members after that operation, and how deep classes stand within it. -/
structure ClassDraft where
  waiting : Option (SetOperation × CharSet) := none
  members : CharSet := .empty
  depth : Nat := 0

namespace ClassDraft

def addSet (draft : ClassDraft) (set : CharSet) : ClassDraft :=
  { draft with members := draft.members.union set }

def settle? (options : Options) (draft : ClassDraft) : Option CharSet :=
  match draft.waiting with
  | none => some draft.members
  | some (operation, left) => do
      return operation.apply (← options.fold? left)
        (← options.fold? draft.members)

end ClassDraft

/-- One member of a class: a character or a set. -/
def readMember? (options : Options) : List Char →
    Option ((Char ⊕ CharSet) × List Char)
  | [] => none
  | '\\' :: rest => do
      match ← readEscape? options rest with
      | (.char char, rest) => return (.inl char, rest)
      | (.set set, rest) => return (.inr set, rest)
      | (.condition _, _) => none
  | char :: rest => some (.inl char, rest)

/-- Whether a minus starts a range: neither the end of the class nor another
minus follows it. -/
def startsRange (options : Options) : List Char → Bool
  | '-' :: rest =>
      match (options.skip rest).head? with
      | some next => next != ']' && next != '-'
      | none => true
  | _ => false

def rangeOf? (options : Options) (first last : Char) : Option CharSet :=
  if first.toNat ≤ last.toNat ∧ (!options.narrow ∨ last.toNat ≤ 0x7f) then
    some ⟨[(first.toNat, last.toNat)]⟩
  else none

def readRange? (options : Options) (chars : List Char) :
    Option (CharSet × List Char) := do
  let (first, rest) ← readMember? options chars
  let rest := options.skip rest
  if startsRange options rest then
    match first, ← readMember? options (options.skip (rest.drop 1)) with
    | .inl first, (.inl last, rest) =>
        return (← rangeOf? options first last, rest)
    | _, _ => none
  else match first with
    | .inl char => return (← rangeOf? options char char, rest)
    | .inr set => return (set, rest)

/-- The start of a class after its opening bracket: whether its complement is
meant, and the minuses or the closing bracket that are members because they
come first. -/
def readClassStart (options : Options) (chars : List Char) :
    Bool × ClassDraft × List Char :=
  let chars := options.skip chars
  let (negated, chars) := match chars with
    | '^' :: rest => (true, options.skip rest)
    | chars => (false, chars)
  let rec minuses (draft : ClassDraft) : List Char → ClassDraft × List Char
    | '-' :: rest => minuses (draft.addSet (.single '-')) rest
    | rest => (draft, rest)
  let (draft, rest) := minuses {} chars
  match draft.members.ranges, rest with
  | [], ']' :: rest => (negated, draft.addSet (.single ']'), rest)
  | _, rest => (negated, draft, rest)

/-- The rest of a class up to its closing bracket, with how deep classes stand
within one another.  Every step uses up a character. -/
def readClassWithin? (options : Options) :
    (steps : Nat) → (negated : Bool) → ClassDraft → List Char →
      Option ((CharSet × Nat) × List Char)
  | 0, _, _, _ => none
  | steps + 1, negated, draft, chars =>
      match options.skip chars with
      | [] => none
      | ']' :: rest => do
          let set ← options.finish? negated (← draft.settle? options)
          return ((set, draft.depth + 1), rest)
      | '[' :: rest =>
          match readNamed? rest with
          | some (opposite, set, rest) => do
              let set ← options.finish? opposite set
              readClassWithin? options steps negated (draft.addSet set) rest
          | none => do
              let (opposite, inner, rest) := readClassStart options rest
              let ((set, depth), rest) ←
                readClassWithin? options steps opposite inner rest
              let draft := { draft.addSet set with
                depth := max draft.depth depth }
              readClassWithin? options steps negated draft rest
      | first :: rest =>
          let operation? := if rest.head? = some first then operationOf? first
            else none
          match operation? with
          | some operation => do
              let left ← draft.settle? options
              readClassWithin? options steps negated
                { draft with
                  waiting := some (operation, left)
                  members := .empty }
                (rest.drop 1)
          | none => do
              let (set, rest) ← readRange? options (first :: rest)
              readClassWithin? options steps negated (draft.addSet set) rest

def readClass? (options : Options) (chars : List Char) :
    Option ((CharSet × Nat) × List Char) :=
  let (negated, draft, rest) := readClassStart options chars
  readClassWithin? options (rest.length + 1) negated draft rest

/-! ## Sequences -/

/-- An element of a sequence, with how deep others stand within it.  Setting
options is an element that cannot be repeated. -/
structure Piece where
  pattern : Pattern
  depth : Nat := 0
  repeatable : Bool := true

namespace Piece

def ofRow : List Piece → Piece
  | [piece] => piece
  | pieces => ⟨row (pieces.map pattern),
      if pieces = [] then 0
      else (pieces.map depth).foldl max 0 + 1, true⟩

def ofChoices (first : Piece) : List Piece → Piece
  | [] => first
  | others => ⟨choices first.pattern (others.map pattern),
      (others.map depth).foldl max first.depth + 1, true⟩

def repeat? (piece : Piece) (least : Nat) (most : Option Nat) :
    Option Piece :=
  if !piece.repeatable || most.any (· < least) then none
  else
    let pattern := if most = some 0 then .empty
      else .repeated piece.pattern least most
    some ⟨pattern, piece.depth + 1, true⟩

end Piece

/-- A number in a counted repetition, with white space around it. -/
def readCount (chars : List Char) : Option Nat × List Char :=
  let start := chars.dropWhile isBlank
  let count := (readNatural? (start.takeWhile isDigit)).filter
    (· < UInt32.size)
  (count, (start.dropWhile isDigit).dropWhile isBlank)

/-- The bounds of a counted repetition after its opening brace.  The lower one
must be there. -/
def readBounds? (options : Options) (chars : List Char) :
    Option ((Nat × Option Nat) × List Char) :=
  match readCount chars with
  | (some least, '\x7d' :: rest) => some ((least, some least), rest)
  | (some least, ',' :: rest) =>
      match options.skip rest with
      | '\x7d' :: rest => some ((least, none), rest)
      | rest =>
          match readCount rest with
          | (some most, '\x7d' :: rest) => some ((least, some most), rest)
          | _ => none
  | _ => none

/-- The bounds of a repetition, if the text starts with one.  A question mark
after it, which asks for few repetitions rather than many, does not matter. -/
def readRepetition? (options : Options) (chars : List Char) :
    Option (Option ((Nat × Option Nat) × List Char)) :=
  let finish (bounds : Nat × Option Nat) (rest : List Char) :=
    some (some (bounds, match rest with
      | '?' :: rest => rest
      | rest => rest))
  match chars with
  | '?' :: rest => finish (0, some 1) rest
  | '*' :: rest => finish (0, none) rest
  | '+' :: rest => finish (1, none) rest
  | '\x7b' :: rest => do
      let (bounds, rest) ← readBounds? options (options.skip rest)
      finish bounds (options.skip rest)
  | _ => some none

/-- The name of a group up to its closing bracket. -/
def readName? (chars : List Char) : Option (String × List Char) :=
  let isStart (char : Char) : Bool :=
    char == '_' || char.isAlpha || 0x7f < char.toNat
  let isNameChar (char : Char) : Bool :=
    isStart char || char.isDigit || char == '.' || char == '[' || char == ']'
  let name := chars.takeWhile isNameChar
  match name.head?, chars.dropWhile isNameChar with
  | some first, '>' :: rest =>
      if isStart first then some (String.ofList name, rest) else none
  | _, _ => none

/-- How a group opens: with options for the rest of the group around it, or as
a group with options and perhaps a name of its own. -/
inductive Opening where
  | options (options : Options)
  | group (options : Options) (name : Option String)

/-- The opening of a group after its parenthesis.  Looking ahead or behind is
not understood. -/
def readOpening? (options : Options) (chars : List Char) :
    Option (Opening × List Char) :=
  match options.skip chars with
  | '?' :: 'P' :: '<' :: rest => do
      let (name, rest) ← readName? rest
      return (.group options (some name), rest)
  | '?' :: '<' :: rest => do
      let (name, rest) ← readName? rest
      return (.group options (some name), rest)
  | '?' :: rest => do
      match ← options.switchAll? [] rest with
      | (switched, ':', later) => return (.group switched none, later)
      | (switched, _, later) =>
          if rest.head? = some ')' then none
          else return (.options switched, later)
  | rest => some (.group options none, rest)

/-- What is known while a pattern is read: the options of the current group,
the names of all groups so far, and the elements of the current sequence and
the sequences before it, the last ones first. -/
structure Draft where
  options : Options := {}
  names : List String := []
  pieces : List Piece := []
  sequences : List Piece := []

namespace Draft

def push (draft : Draft) (piece : Piece) : Draft :=
  { draft with pieces := piece :: draft.pieces }

def endSequence (draft : Draft) : Draft :=
  { draft with
    pieces := []
    sequences := .ofRow draft.pieces.reverse :: draft.sequences }

def finish (draft : Draft) : Piece :=
  match draft.endSequence.sequences.reverse with
  | [] => ⟨.empty, 0, true⟩
  | first :: others => .ofChoices first others

/-- Put a repetition in place of the last element. -/
def repeatLast? (draft : Draft) (bounds : Nat × Option Nat) : Option Draft :=
  match draft.pieces with
  | [] => none
  | last :: earlier => do
      let piece ← last.repeat? bounds.1 bounds.2
      return { draft with pieces := piece :: earlier }

end Draft

/-- An element that is neither a group nor a class. -/
def readPlain? (options : Options) : List Char →
    Option (Pattern × List Char)
  | [] => none
  | '.' :: rest => do return (.single (← options.dot?), rest)
  | '^' :: rest => some (.assertion options.start, rest)
  | '$' :: rest => some (.assertion options.stop, rest)
  | '\\' :: rest => do
      match ← readEscape? options rest with
      | (.char char, rest) => return (.single (← options.char? char), rest)
      | (.set set, rest) => return (.single set, rest)
      | (.condition condition, rest) => return (.assertion condition, rest)
  | char :: rest => do return (.single (← options.char? char), rest)

/-- The rest of a group, up to its closing parenthesis or the end of the text.
Every step uses up a character. -/
def readGroupWithin? : (steps : Nat) → Draft → List Char →
    Option (Draft × List Char)
  | 0, _, _ => none
  | steps + 1, draft, chars =>
      match draft.options.skip chars with
      | [] => some (draft, [])
      | ')' :: rest => some (draft, ')' :: rest)
      | '|' :: rest => readGroupWithin? steps draft.endSequence rest
      | '(' :: rest => do
          match ← readOpening? draft.options rest with
          | (.options options, rest) =>
              readGroupWithin? steps
                ({ draft with options }.push ⟨.empty, 0, false⟩) rest
          | (.group options name, rest) => do
              if name.any draft.names.contains then none
              else
                let (inner, rest) ← readGroupWithin? steps
                  { options, names := name.toList ++ draft.names } rest
                match rest with
                | ')' :: rest =>
                    let whole := inner.finish
                    readGroupWithin? steps
                      ({ draft with names := inner.names }.push
                        ⟨whole.pattern, whole.depth + 1, true⟩) rest
                | _ => none
      | '[' :: rest => do
          let ((set, depth), rest) ← readClass? draft.options rest
          readGroupWithin? steps (draft.push ⟨.single set, depth, true⟩) rest
      | rest => do
          match ← readRepetition? draft.options rest with
          | some (bounds, rest) =>
              readGroupWithin? steps (← draft.repeatLast? bounds) rest
          | none =>
              let (pattern, rest) ← readPlain? draft.options rest
              readGroupWithin? steps (draft.push ⟨pattern, 0, true⟩) rest

/-- Elements that may stand within one another. -/
def mostNested : Nat := 250

/-- Room that a pattern may take. -/
def mostWeight : Nat := 327680

def ofText? (text : String) : Option Pattern := do
  let chars := text.toList
  let (draft, rest) ← readGroupWithin? (chars.length + 1) {} chars
  let whole := draft.finish
  if rest = [] ∧ whole.depth ≤ mostNested ∧
      whole.pattern.weight ≤ mostWeight then
    return whole.pattern
  else none

end Pattern

end GrammaticalEvolution.Text
