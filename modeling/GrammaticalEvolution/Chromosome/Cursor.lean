import GrammaticalEvolution.Chromosome

/-!
# Cyclic reading of a chromosome

A cursor reads the genes of a chromosome one after the other and starts again
at the first one when they are used up.  It turns back only at the read that
needs it, so reading exactly to the end does not count as wrapped.
-/

namespace GrammaticalEvolution

/-- A position in the endless repetition of a chromosome: behind the gene read
last, at the end of the chromosome even behind the last one. -/
structure Cursor where
  genes : Chromosome
  nonempty : genes ≠ []
  position : Nat
  consumed : Nat

namespace Cursor

/-- The start of a chromosome; an empty one has nothing to read. -/
def ofGenes? (genes : Chromosome) : Option Cursor :=
  if nonempty : genes ≠ [] then some ⟨genes, nonempty, 0, 0⟩ else none

/-- The place that the next read takes its gene from. -/
def nextPlace (cursor : Cursor) : Nat :=
  if cursor.genes.length ≤ cursor.position then 0 else cursor.position

/-- Wherever a cursor stands, its next read is at a place of the chromosome. -/
theorem nextPlace_lt (cursor : Cursor) :
    cursor.nextPlace < cursor.genes.length := by
  unfold nextPlace
  split
  · exact List.length_pos_iff.mpr cursor.nonempty
  · next inside => exact Nat.not_le.mp inside

def read (cursor : Cursor) : Gene × Cursor :=
  let place := cursor.nextPlace
  have inside : place < cursor.genes.length := cursor.nextPlace_lt
  (cursor.genes[place],
    { cursor with
      position := place + 1
      consumed := cursor.consumed + 1 })

def readMany : (count : Nat) → Cursor → List Gene × Cursor
  | 0, cursor => ([], cursor)
  | count + 1, cursor =>
      let (gene, next) := cursor.read
      let (genes, last) := readMany count next
      (gene :: genes, last)

/-- The places that so many reads take their genes from. -/
def placesRead : (count : Nat) → Cursor → List Nat
  | 0, _ => []
  | count + 1, cursor => cursor.nextPlace :: placesRead count cursor.read.2

def hasWrapped (cursor : Cursor) : Bool :=
  cursor.genes.length < cursor.consumed

@[simp] theorem genes_read (cursor : Cursor) :
    cursor.read.2.genes = cursor.genes := rfl

@[simp] theorem position_read (cursor : Cursor) :
    cursor.read.2.position = cursor.nextPlace + 1 := rfl

@[simp] theorem consumed_read (cursor : Cursor) :
    cursor.read.2.consumed = cursor.consumed + 1 := rfl

/-- A read yields the gene at its place. -/
theorem getElem?_nextPlace (cursor : Cursor) :
    cursor.genes[cursor.nextPlace]? = some cursor.read.1 :=
  List.getElem?_eq_getElem cursor.nextPlace_lt

/-- What a number of reads yields are the genes at the places they read. -/
theorem readMany_eq (count : Nat) (cursor : Cursor) :
    (cursor.readMany count).1.map some =
      (cursor.placesRead count).map (cursor.genes[·]?) := by
  induction count generalizing cursor with
  | zero => rfl
  | succ count induction =>
      have later := induction cursor.read.2
      rw [genes_read] at later
      rw [placesRead, List.map_cons, getElem?_nextPlace, ← later]
      rfl

theorem length_readMany (count : Nat) (cursor : Cursor) :
    (cursor.readMany count).1.length = count := by
  induction count generalizing cursor with
  | zero => rfl
  | succ count induction => exact congrArg (· + 1) (induction cursor.read.2)

end Cursor

end GrammaticalEvolution
