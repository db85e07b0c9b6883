import GrammaticalEvolution.Settings.Value

/-!
# Tables under construction

The statements of a document build its tables step by step, and no statement
may redefine what another one has defined.  Each table therefore remembers how
it came about: by a header of its own, on the way to another header, or through
a dotted key.
-/

namespace GrammaticalEvolution.Toml

/-- How a table came about. -/
inductive Origin where
  | header
  | implied
  | dotted
deriving DecidableEq, Repr

/-- A part of a document: a complete value, a table that may still grow, or
tables that headers append to, the last one first. -/
inductive Node where
  | value (value : Setting)
  | table (origin : Origin) (entries : List (String × Node))
  | tables (elements : List (List (String × Node)))

/-- Named parts, in the order they were defined. -/
abbrev Nodes := List (String × Node)

/-- Replace the part of a name, or add it at the end. -/
def put (name : String) (node : Node) : Nodes → Nodes
  | [] => [(name, node)]
  | entry :: rest =>
      if entry.1 = name then (name, node) :: rest
      else entry :: put name node rest

/-- Change the table that a header path leads to.  Missing tables on the way
are implied, and of several tables the last one is meant. -/
def changeAt (change : Nodes → Option Nodes) :
    (path : List String) → Nodes → Option Nodes
  | [], nodes => change nodes
  | name :: rest, nodes =>
      match nodes.lookup name with
      | none => do
          let inner ← changeAt change rest []
          return put name (.table .implied inner) nodes
      | some (.table origin entries) => do
          let inner ← changeAt change rest entries
          return put name (.table origin inner) nodes
      | some (.tables (last :: earlier)) => do
          let inner ← changeAt change rest last
          return put name (.tables (inner :: earlier)) nodes
      | some _ => none

/-- Open a table by a header.  It may have been implied before, but not
defined. -/
def openTable (name : String) (nodes : Nodes) : Option Nodes :=
  match nodes.lookup name with
  | none => some (put name (.table .header []) nodes)
  | some (.table .implied entries) =>
      some (put name (.table .header entries) nodes)
  | some _ => none

def appendTable (name : String) (nodes : Nodes) : Option Nodes :=
  match nodes.lookup name with
  | none => some (put name (.tables [[]]) nodes)
  | some (.tables elements) => some (put name (.tables ([] :: elements)) nodes)
  | some _ => none

/-- Define a value by a dotted key.  Tables on the way must not have been
opened by a header, and the last of them must come from dotted keys alone.  Of
several tables the last one is meant, as in headers. -/
def define (value : Setting) : (path : List String) → Nodes → Option Nodes
  | [], _ => none
  | [name], nodes =>
      match nodes.lookup name with
      | none => some (put name (.value value) nodes)
      | some _ => none
  | name :: rest, nodes =>
      match nodes.lookup name with
      | none => do
          let inner ← define value rest []
          return put name (.table .dotted inner) nodes
      | some (.table .dotted entries) => do
          let inner ← define value rest entries
          return put name (.table .dotted inner) nodes
      | some (.table .implied entries) =>
          if rest.length = 1 then none
          else do
            let inner ← define value rest entries
            return put name (.table .implied inner) nodes
      | some (.tables (last :: earlier)) =>
          if rest.length = 1 then none
          else do
            let inner ← define value rest last
            return put name (.tables (inner :: earlier)) nodes
      | some _ => none

mutual

def Node.finish : Node → Setting
  | .value value => value
  | .table _ entries => .table (finishEntries entries)
  | .tables elements => .list (finishTables elements [])

def finishEntries : List (String × Node) → Entries
  | [] => []
  | entry :: rest => finishEntry entry :: finishEntries rest

def finishEntry : String × Node → String × Setting
  | (name, node) => (name, node.finish)

/-- The values of tables, put in front of those that come after them. -/
def finishTables : List (List (String × Node)) → List Setting → List Setting
  | [], later => later
  | entries :: earlier, later =>
      finishTables earlier (.table (finishEntries entries) :: later)

end

end GrammaticalEvolution.Toml
