import GrammaticalEvolution.Chromosome.Cursor

/-!
# A cursor reads the cyclic word

The endless repetition of a chromosome is a word: its gene at a position is the
chromosome's gene at the remainder.  A cursor turns back lazily, so it may stand
behind the last gene, and its position agrees with the count of genes read only
up to whole repetitions.
-/

namespace GrammaticalEvolution

/-- The gene at a position of the endless repetition of a chromosome. -/
def Chromosome.cyclic (genes : Chromosome) (position : Nat) : Gene :=
  genes.getD (position % genes.length) 0

theorem Chromosome.cyclic_of_lt {genes : Chromosome} {time : Nat}
    (inside : time < genes.length) :
    genes.cyclic time = genes[time] := by
  rw [cyclic, Nat.mod_eq_of_lt inside, List.getD_eq_getElem?_getD,
    List.getElem?_eq_getElem inside, Option.getD_some]

namespace Cursor

/-- A cursor that has read nothing yet. -/
def start (genes : Chromosome) (nonempty : genes ≠ []) : Cursor :=
  ⟨genes, nonempty, 0, 0⟩

theorem ofGenes?_start {genes : Chromosome} (nonempty : genes ≠ []) :
    ofGenes? genes = some (start genes nonempty) :=
  dif_pos nonempty

/-- Reading one gene more is reading once more at the end. -/
theorem readMany_succ_snd (count : Nat) (cursor : Cursor) :
    (cursor.readMany (count + 1)).2 = (cursor.readMany count).2.read.2 := by
  induction count generalizing cursor with
  | zero => rfl
  | succ count induction => exact induction cursor.read.2

@[simp] theorem genes_readMany (count : Nat) (cursor : Cursor) :
    (cursor.readMany count).2.genes = cursor.genes := by
  induction count generalizing cursor with
  | zero => rfl
  | succ count induction =>
      rw [readMany_succ_snd, genes_read]
      exact induction cursor

@[simp] theorem consumed_readMany (count : Nat) (cursor : Cursor) :
    (cursor.readMany count).2.consumed = cursor.consumed + count := by
  induction count generalizing cursor with
  | zero => rfl
  | succ count induction =>
      rw [readMany_succ_snd, consumed_read, induction cursor]
      omega

theorem consumed_readMany_start {genes : Chromosome} (nonempty : genes ≠ [])
    (count : Nat) :
    ((start genes nonempty).readMany count).2.consumed = count := by
  rw [consumed_readMany, start, Nat.zero_add]

/-- A cursor stands within the chromosome or just behind it, at the number of
genes consumed up to whole repetitions.  Behind the chromosome it turns back
only at its next read. -/
structure InStep (cursor : Cursor) : Prop where
  within : cursor.position ≤ cursor.genes.length
  agrees : cursor.consumed % cursor.genes.length =
    cursor.position % cursor.genes.length

theorem inStep_of_ofGenes? {genes : Chromosome} {cursor : Cursor}
    (fresh : ofGenes? genes = some cursor) : cursor.InStep := by
  unfold ofGenes? at fresh
  split at fresh
  · cases fresh
    exact ⟨Nat.zero_le _, rfl⟩
  · cases fresh

/-- Wherever the cursor stands, the place of its next read is the remainder of
the genes read so far. -/
theorem InStep.nextPlace_eq {cursor : Cursor} (inStep : cursor.InStep) :
    cursor.nextPlace = cursor.consumed % cursor.genes.length := by
  rw [nextPlace, inStep.agrees]
  rcases Nat.lt_or_eq_of_le inStep.within with inside | atEnd
  · rw [if_neg (Nat.not_le.mpr inside), Nat.mod_eq_of_lt inside]
  · rw [if_pos (Nat.le_of_eq atEnd.symm), atEnd, Nat.mod_self]

/-- A read keeps the cursor in step and yields the gene of the cyclic word at
the number of genes consumed before. -/
theorem InStep.read {cursor : Cursor} (inStep : cursor.InStep) :
    cursor.read.1 = cursor.genes.cyclic cursor.consumed ∧
      cursor.read.2.InStep := by
  refine ⟨?_, ?_, ?_⟩
  · rw [Chromosome.cyclic, ← inStep.nextPlace_eq, List.getD_eq_getElem?_getD,
      getElem?_nextPlace, Option.getD_some]
  · exact cursor.nextPlace_lt
  · rw [genes_read, consumed_read, position_read, inStep.nextPlace_eq,
      Nat.mod_add_mod]

theorem InStep.readMany {cursor : Cursor} (inStep : cursor.InStep)
    (count : Nat) : (cursor.readMany count).2.InStep := by
  induction count with
  | zero => exact inStep
  | succ count induction =>
      rw [readMany_succ_snd]
      exact induction.read.2

theorem ofGenes?_fields {genes : Chromosome} {cursor : Cursor}
    (fresh : ofGenes? genes = some cursor) :
    cursor.genes = genes ∧ cursor.consumed = 0 := by
  unfold ofGenes? at fresh
  split at fresh
  · cases fresh
    exact ⟨rfl, rfl⟩
  · cases fresh

/-- The next read after a number of reads yields the gene of the cyclic word
at that number. -/
theorem read_readMany {genes : Chromosome} {cursor : Cursor}
    (fresh : ofGenes? genes = some cursor) (count : Nat) :
    (cursor.readMany count).2.read.1 = genes.cyclic count := by
  have step := ((inStep_of_ofGenes? fresh).readMany count).read.1
  obtain ⟨sameGenes, unread⟩ := ofGenes?_fields fresh
  rwa [genes_readMany, consumed_readMany, sameGenes, unread,
    Nat.zero_add] at step

end Cursor

end GrammaticalEvolution
