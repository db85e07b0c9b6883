import GrammaticalEvolution.Toml.Quoted
import GrammaticalEvolution.Toml.Scalar
import GrammaticalEvolution.Toml.Table

/-!
# TOML documents

A document is a sequence of statements, one to a line: a key with a value, or
the header of a table.  Reading fails as a whole on the first text that breaks
the grammar or redefines something.
-/

namespace GrammaticalEvolution.Toml

/-- Values that may stand within one another. -/
def mostNested : Nat := 80

/-- Parts that a key may have. -/
def mostParts : Nat := 80

def skipIndent (chars : List Char) : List Char :=
  chars.dropWhile isIndent

/-- The rest of a line after a statement: white space, a comment, and the line
end or the end of the text. -/
def finishLine? (chars : List Char) : Option (List Char) :=
  let comment (rest : List Char) : List Char := match rest with
    | '#' :: text => text.dropWhile isPlain
    | rest => rest
  match comment (skipIndent chars) with
  | [] => some []
  | rest => lineEnd? rest

/-- White space, comments and line ends between the parts of a value, at most
so many lines of them. -/
def skipLines : (most : Nat) → List Char → List Char
  | 0, chars => skipIndent chars
  | most + 1, chars =>
      match skipIndent chars with
      | [] => []
      | rest =>
          match finishLine? rest with
          | some later => skipLines most later
          | none => rest

/-- White space, comments and line ends between the parts of a value. -/
def skipTrivia (chars : List Char) : List Char :=
  skipLines chars.length chars

def readKeyPart? (chars : List Char) : Option (String × List Char) :=
  let isKeyChar (char : Char) : Bool :=
    char.isAlphanum || char == '_' || char == '-'
  match chars.takeWhile isKeyChar with
  | [] => readLineString? chars
  | name => some (String.ofList name, chars.dropWhile isKeyChar)

/-- A key of at most so many parts, with dots between them. -/
def readKeyWithin? : (most : Nat) → List Char →
    Option (List String × List Char)
  | 0, _ => none
  | most + 1, chars => do
      let (part, rest) ← readKeyPart? (skipIndent chars)
      match skipIndent rest with
      | '.' :: later => do
          let (parts, rest) ← readKeyWithin? most later
          return (part :: parts, rest)
      | rest => return ([part], rest)

/-- A key, with what follows it and the white space after it. -/
def readKey? (chars : List Char) : Option (List String × List Char) :=
  readKeyWithin? mostParts chars

abbrev ValueReader := List Char → Option (Setting × List Char)

/-- A key and its value.  What may stand around the sign between them depends
on where they stand. -/
def readPair? (skipGap : List Char → List Char) (readValue? : ValueReader)
    (chars : List Char) : Option ((List String × Setting) × List Char) := do
  let (path, rest) ← readKey? chars
  let rest ← follow? '=' (skipGap rest)
  let (value, rest) ← readValue? (skipGap rest)
  return ((path, value), rest)

/-- Parts with commas between them, up to a closing character.  The last one
may have a comma too. -/
def readParts? {α : Type} (readPart? : List Char → Option (α × List Char))
    (closing : Char) : (most : Nat) → List Char → Option (List α × List Char)
  | 0, _ => none
  | most + 1, chars =>
      match follow? closing (skipTrivia chars) with
      | some rest => some ([], rest)
      | none => do
          let (part, rest) ← readPart? (skipTrivia chars)
          match skipTrivia rest with
          | ',' :: later => do
              let (parts, rest) ← readParts? readPart? closing most later
              return (part :: parts, rest)
          | rest => do
              let rest ← follow? closing rest
              return ([part], rest)

def inlineTable? (pairs : List (List String × Setting)) : Option Setting := do
  let nodes ← pairs.foldlM
    (fun nodes pair => define pair.2 pair.1 nodes) []
  return .table (finishEntries nodes)

/-- A value in which others may be nested exactly if a reader for them is
given. -/
def readValueWith? (inner : Option ValueReader) : ValueReader
  | '[' :: rest => do
      let (items, rest) ← readParts? (← inner) ']' (rest.length + 1) rest
      return (.list items, rest)
  | '\x7b' :: rest => do
      let (pairs, rest) ← readParts? (readPair? skipTrivia (← inner))
        '\x7d' (rest.length + 1) rest
      return (← inlineTable? pairs, rest)
  | '"' :: rest => do
      let (text, rest) ← readString? ('"' :: rest)
      return (.text text, rest)
  | '\'' :: rest => do
      let (text, rest) ← readString? ('\'' :: rest)
      return (.text text, rest)
  | chars => takeBare? chars

/-- A value in which so many others may be nested within one another. -/
def readValue? : (room : Nat) → ValueReader
  | 0 => readValueWith? none
  | room + 1 => readValueWith? (some (readValue? room))

/-- A line of a document. -/
inductive Statement where
  | pair (path : List String) (value : Setting)
  | table (path : List String)
  | element (path : List String)

def readStatement? : List Char → Option (Statement × List Char)
  | '[' :: '[' :: rest => do
      let (path, rest) ← readKey? rest
      let rest ← follow? ']' (← follow? ']' rest)
      return (.element path, rest)
  | '[' :: rest => do
      let (path, rest) ← readKey? rest
      return (.table path, ← follow? ']' rest)
  | chars => do
      let ((path, value), rest) ← readPair? skipIndent (readValue? mostNested)
        chars
      return (.pair path value, rest)

/-- The statements of a text of at most so many of them. -/
def readStatements? : (most : Nat) → List Char → Option (List Statement)
  | 0, _ => none
  | most + 1, chars =>
      match skipTrivia chars with
      | [] => some []
      | start => do
          let (statement, rest) ← readStatement? start
          let statements ← readStatements? most (← finishLine? rest)
          return statement :: statements

/-- The tables built so far and the header that pairs belong to. -/
structure Progress where
  nodes : Nodes
  header : List String

def Progress.apply? (progress : Progress) : Statement → Option Progress
  | .pair path value => do
      let nodes ← changeAt (define value path) progress.header progress.nodes
      return { progress with nodes }
  | .table path => do
      let name ← path.getLast?
      let nodes ← changeAt (openTable name) path.dropLast progress.nodes
      return ⟨nodes, path⟩
  | .element path => do
      let name ← path.getLast?
      let nodes ← changeAt (appendTable name) path.dropLast progress.nodes
      return ⟨nodes, path⟩

/-- A text without the mark that some editors put in front. -/
def dropMark : List Char → List Char
  | '\ufeff' :: rest => rest
  | chars => chars

def read? (chars : List Char) : Option Entries := do
  let start := dropMark chars
  let statements ← readStatements? (start.length + 1) start
  let progress ← statements.foldlM Progress.apply? ⟨[], []⟩
  return finishEntries progress.nodes

end GrammaticalEvolution.Toml
