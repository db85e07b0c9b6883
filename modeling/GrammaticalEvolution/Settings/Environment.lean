import GrammaticalEvolution.Settings.Path

/-!
# Settings from environment variables

Variables whose name starts with a given word set single values.  Names are
compared in lower case, two underscores stand for a step into a table, and the
text of a value decides its kind.
-/

namespace GrammaticalEvolution

/-- Variables of the environment, with their texts. -/
abbrev Environment := List (String × String)

namespace Environment

open Decimal

/-- Start of the names that are looked at, in lower case. -/
def marker : List Char := "gacore_".toList

/-- A character of a name in lower case.  Apart from capital letters only the
Kelvin sign has a lower case that paths admit. -/
def lowerChar (char : Char) : Char :=
  if char = '\u212a' then 'k' else char.toLower

/-- A name with a point for every two underscores. -/
def pointed : List Char → List Char
  | '_' :: '_' :: rest => '.' :: pointed rest
  | char :: rest => char :: pointed rest
  | [] => []

/-- What a name says after the marker, if it starts with it. -/
def settingName? (name : String) : Option String :=
  let lower := name.toList.map lowerChar
  if lower.take marker.length = marker then
    some (String.ofList (pointed (lower.drop marker.length)))
  else none

/-- The value that a text stands for: a truth value in any case, an integer, a
float, or the text itself. -/
def settingOf (text : String) : Setting :=
  let chars := text.toList
  let lower := chars.map Char.toLower
  if lower = "true".toList then .bool true
  else if lower = "false".toList then .bool false
  else
    let integer := (readInteger? chars).filter fun number =>
      Int64.minValue.toInt ≤ number && number ≤ Int64.maxValue.toInt
    match integer, readFloat? chars with
    | some number, _ => .integer (Int64.ofInt number)
    | none, some number => .float number
    | none, none => .text text

/-- The entries that no later one has the name of. -/
def lastNamed : Entries → Entries
  | [] => []
  | entry :: rest =>
      if rest.any (fun later => later.1 == entry.1) then lastNamed rest
      else entry :: lastNamed rest

/-- The settings that variables name.  Of several variables that name the same
setting the last one counts. -/
def settings (environment : Environment) : Entries :=
  lastNamed (environment.filterMap fun entry =>
    (settingName? entry.1).map fun name => (name, settingOf entry.2))

end Environment

end GrammaticalEvolution
