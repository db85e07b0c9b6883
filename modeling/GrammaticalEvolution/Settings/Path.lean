import GrammaticalEvolution.Settings.Value

/-!
# Paths to settings

A path names an entry of a table, then an entry or a position within that, and
so on.  Assigning through a path makes the tables and lists on the way, in
place of any other value that stands there.  Negative positions count from the
end of a list.
-/

namespace GrammaticalEvolution

/-- A step from a value to one of its parts. -/
inductive PathStep where
  | entry (name : String)
  | position (index : Int)
deriving DecidableEq, Repr

/-- A first name and further steps. -/
structure SettingPath where
  root : String
  steps : List PathStep
deriving DecidableEq, Repr

namespace SettingPath

open Decimal

/-- Characters of a name that needs no quotation. -/
def isNameChar (char : Char) : Bool :=
  char.isAlphanum || char == '_' || char == '-'

/-- Whether a position is one of the 64-bit range. -/
def isPosition (index : Int) : Bool :=
  Int64.minValue.toInt ≤ index && index ≤ Int64.maxValue.toInt

/-- A position in brackets, after the opening one. -/
def readPosition? (chars : List Char) : Option (Int × List Char) := do
  let isGap (char : Char) : Bool := char == ' ' || char == '\t'
  let (negative, digits) := match chars.dropWhile isGap with
    | '-' :: rest => (true, rest)
    | rest => (false, rest)
  let magnitude ← readNatural? (digits.takeWhile isDigit)
  let index : Int := if negative then -magnitude else magnitude
  match (digits.dropWhile isDigit).dropWhile isGap with
  | ']' :: rest => if isPosition index then return (index, rest) else none
  | _ => none

/-- The steps that a text spells, at most so many. -/
def readSteps? : (most : Nat) → List Char → Option (List PathStep)
  | _, [] => some []
  | 0, _ => none
  | most + 1, '.' :: rest =>
      match rest.takeWhile isNameChar with
      | [] => none
      | name => do
          let steps ← readSteps? most (rest.dropWhile isNameChar)
          return .entry (String.ofList name) :: steps
  | most + 1, '[' :: rest => do
      let (index, rest) ← readPosition? rest
      let steps ← readSteps? most rest
      return .position index :: steps
  | _ + 1, _ => none

/-- The path that a text spells; a text that spells none is a name itself. -/
def ofText (text : String) : SettingPath :=
  let chars := text.toList
  match chars.takeWhile isNameChar with
  | [] => ⟨text, []⟩
  | root =>
      match readSteps? chars.length (chars.dropWhile isNameChar) with
      | some steps => ⟨String.ofList root, steps⟩
      | none => ⟨text, []⟩

/-- Change the item at a position.  A list too short for it is filled up. -/
def alterItem (index : Int) (change : Setting → Setting)
    (items : List Setting) : List Setting :=
  let missing := -(index + items.length)
  if index < 0 ∧ 0 < missing then
    change .nothing :: (List.replicate (missing.toNat - 1) .nothing ++ items)
  else
    let position := if index < 0 then (index + items.length).toNat
      else index.toNat
    let filled := items ++
      List.replicate (position + 1 - items.length) .nothing
    filled.modify position change

def alterAt (change : Setting → Setting) : List PathStep → Setting → Setting
  | [], value => change value
  | .entry name :: rest, value => value.withEntry name (alterAt change rest)
  | .position index :: rest, value =>
      .list (alterItem index (alterAt change rest) value.items)

def assign (path : SettingPath) (upper : Setting) (value : Setting) : Setting :=
  value.withEntry path.root (alterAt upper.overlay path.steps)

end SettingPath

/-- An order for the entries of a source.  A source keeps its entries in a hash
table, so they may come up in any order. -/
structure SourceOrder where
  arrange : Entries → Entries
  perm : ∀ entries, (arrange entries).Perm entries

/-- The order in which the entries stand in their source. -/
def SourceOrder.asGiven : SourceOrder :=
  ⟨id, fun _ => .refl _⟩

namespace Setting

/-- Lay named values over a table one after the other, each name taken for a
path. -/
def assignAll (named : List (String × Setting)) (value : Setting) : Setting :=
  named.foldl
    (fun value entry => (SettingPath.ofText entry.1).assign entry.2 value) value

/-- Lay a source over a table, its entries in an order. -/
def laySource (order : SourceOrder) (source : Entries) (value : Setting) :
    Setting :=
  value.assignAll (order.arrange source)

/-- What a source makes by itself. -/
def ofSource (order : SourceOrder) (source : Entries) : Setting :=
  laySource order source (.table [])

end Setting

end GrammaticalEvolution
