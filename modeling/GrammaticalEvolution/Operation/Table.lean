import GrammaticalEvolution.Operation

/-!
# Tables of operations

A table finds operations by name and holds at most one of each name.
Registering an operation replaces the one of the same name.
-/

namespace GrammaticalEvolution

/-- Operations with distinct names. -/
structure OperationTable where
  operations : List Operation
  distinct : (operations.map Operation.name).Nodup

namespace OperationTable

def empty : OperationTable :=
  ⟨[], List.nodup_nil⟩

def find? (table : OperationTable) (name : String) : Option Operation :=
  table.operations.find? (fun operation => operation.name == name)

def contains (table : OperationTable) (name : String) : Bool :=
  (table.find? name).isSome

def size (table : OperationTable) : Nat :=
  table.operations.length

def isEmpty (table : OperationTable) : Bool :=
  table.operations.isEmpty

def others (operations : List Operation) (name : String) : List Operation :=
  operations.filter (fun operation => operation.name != name)

theorem nodup_cons_others (operations : List Operation)
    (distinct : (operations.map Operation.name).Nodup)
    (operation : Operation) :
    ((operation :: others operations operation.name).map
      Operation.name).Nodup := by
  rw [List.map_cons, List.nodup_cons]
  constructor
  · intro member
    rcases List.mem_map.mp member with ⟨other, otherMember, equality⟩
    have differs := (List.mem_filter.mp otherMember).2
    simp [equality] at differs
  · exact List.Nodup.sublist (List.Sublist.map _ List.filter_sublist) distinct

/-- Add an operation in place of any other of its name. -/
def register (table : OperationTable) (operation : Operation) :
    OperationTable :=
  ⟨operation :: others table.operations operation.name,
    nodup_cons_others table.operations table.distinct operation⟩

def registerAll (table : OperationTable) (operations : List Operation) :
    OperationTable :=
  operations.foldl register table

def names (table : OperationTable) : List String :=
  (table.operations.map Operation.name).mergeSort
    (fun left right => decide (left ≤ right))

def describe (table : OperationTable) : String :=
  "FunctionTable \x7b functions: " ++
    Text.bracketed (table.names.map Text.quoted) ++ " \x7d"

end OperationTable

end GrammaticalEvolution
