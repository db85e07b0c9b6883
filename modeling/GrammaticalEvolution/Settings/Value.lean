import GrammaticalEvolution.Decimal.Literal

/-!
# Setting values

Settings are read from several sources into one tree of values.  A later
source lies over an earlier one: tables are merged entry by entry, and every
other value replaces what was there.
-/

namespace GrammaticalEvolution

/-- A value of a settings source. -/
inductive Setting where
  | nothing
  | bool (truth : Bool)
  | integer (number : Int64)
  | float (number : Float)
  | text (text : String)
  | list (items : List Setting)
  | table (entries : List (String × Setting))
deriving Inhabited

abbrev Entries := List (String × Setting)

namespace Setting

/-- The entries of a table; other values have none. -/
def entries : Setting → Entries
  | .table entries => entries
  | _ => []

/-- The items of a list; other values have none. -/
def items : Setting → List Setting
  | .list items => items
  | _ => []

/-- Change the entry of a name, which is added at the end if there is none. -/
def alterEntry (name : String) (change : Setting → Setting) :
    Entries → Entries
  | [] => [(name, change .nothing)]
  | entry :: rest =>
      if entry.1 = name then (name, change entry.2) :: rest
      else entry :: alterEntry name change rest

/-- Change an entry of a value, which becomes a table if it is none. -/
def withEntry (value : Setting) (name : String) (change : Setting → Setting) :
    Setting :=
  .table (alterEntry name change value.entries)

mutual

def overlay : (upper lower : Setting) → Setting
  | .table entries, lower => overlayEntries entries (.table lower.entries)
  | upper, _ => upper

/-- Lay entries over a value one after the other. -/
def overlayEntries : Entries → Setting → Setting
  | [], lower => lower
  | entry :: rest, lower => overlayEntries rest (overlayEntry entry lower)

def overlayEntry : String × Setting → Setting → Setting
  | (name, upper), lower => lower.withEntry name (overlay upper)

end

end Setting

end GrammaticalEvolution
