import GrammaticalEvolution.Proofs.CyclicReading
import Mathlib.Data.List.Nodup

/-!
# Places that a cursor reads

The place of every read of a cursor is the remainder of the genes read before,
so a place is read again exactly when more genes are read than there are.
-/

namespace GrammaticalEvolution

namespace Cursor

variable {genes : Chromosome} {cursor : Cursor}

theorem InStep.placesRead_eq (inStep : cursor.InStep) (count : Nat) :
    cursor.placesRead count = (List.range count).map fun time =>
      (cursor.consumed + time) % cursor.genes.length := by
  induction count generalizing cursor with
  | zero => rfl
  | succ count induction =>
      have later := induction inStep.read.2
      rw [genes_read, consumed_read] at later
      rw [placesRead, later, List.range_succ_eq_map, List.map_cons,
        List.map_map, inStep.nextPlace_eq, Nat.add_zero]
      refine congrArg _ (List.map_congr_left fun time _ => ?_)
      exact congrArg (· % cursor.genes.length)
        (Nat.add_right_comm cursor.consumed 1 time)

/-- Remainders of the first numbers repeat if and only if there are more
numbers than remainders. -/
theorem nodup_remainders_iff {length : Nat} (positive : 0 < length)
    (count : Nat) :
    ((List.range count).map (· % length)).Nodup ↔ count ≤ length := by
  constructor
  · intro distinct
    by_contra more
    -- Zero and the length leave the same remainder.
    have same := List.inj_on_of_nodup_map distinct
      (List.mem_range.mpr (by omega : 0 < count))
      (List.mem_range.mpr (by omega : length < count))
      (by rw [Nat.zero_mod, Nat.mod_self])
    omega
  · intro few
    refine List.nodup_range.map_on fun first before second after same => ?_
    rw [List.mem_range] at before after
    rwa [Nat.mod_eq_of_lt (by omega), Nat.mod_eq_of_lt (by omega)] at same

/-- From the start of a chromosome that is not empty, the gene read at any time
is the one at the remainder of the time, which is a place of the chromosome;
every read is counted; and a cursor has wrapped if and only if it has read some
place at least twice. -/
theorem reads_go_around (nonempty : genes ≠ []) (count : Nat) :
    ∃ cursor, ofGenes? genes = some cursor ∧
      (cursor.readMany count).1.length = count ∧
      (cursor.placesRead count).length = count ∧
      (∀ time < count, ∃ inside : time % genes.length < genes.length,
        (cursor.placesRead count)[time]? = some (time % genes.length) ∧
        (cursor.readMany count).1[time]? =
          some genes[time % genes.length]) ∧
      (cursor.readMany count).2.consumed = count ∧
      ((cursor.readMany count).2.hasWrapped = true ↔
        ∃ place, 2 ≤ (cursor.placesRead count).count place) := by
  have fresh := ofGenes?_start nonempty
  have inStep := inStep_of_ofGenes? fresh
  have positive : 0 < genes.length := List.length_pos_iff.mpr nonempty
  have places : (start genes nonempty).placesRead count =
      (List.range count).map (· % genes.length) := by
    simpa only [start, Nat.zero_add] using inStep.placesRead_eq count
  have yielded := (start genes nonempty).readMany_eq count
  rw [places, List.map_map] at yielded
  refine ⟨start genes nonempty, fresh, length_readMany _ _, ?_, ?_,
    consumed_readMany_start nonempty count, ?_⟩
  · rw [places, List.length_map, List.length_range]
  · intro time early
    have inside := Nat.mod_lt time positive
    refine ⟨inside, ?_, ?_⟩
    · rw [places, List.getElem?_map, List.getElem?_range early, Option.map_some]
    · have atTime := congrArg (·[time]?) yielded
      simpa [early, start, inside] using atTime
  · rw [places, hasWrapped, genes_readMany, consumed_readMany_start,
      decide_eq_true_iff]
    have distinct := nodup_remainders_iff positive count
    rw [List.nodup_iff_count_le_one] at distinct
    rw [start, ← Nat.not_le, ← distinct, not_forall]
    exact exists_congr fun place => Nat.not_le

theorem reads_go_around_thrice : ([7, 8] : Chromosome) ≠ [] ∧
    ∃ cursor, ofGenes? [7, 8] = some cursor ∧
      (cursor.readMany 2).2.position = 2 ∧
      (cursor.readMany 2).2.hasWrapped = false ∧
      (cursor.readMany 5).1 = [7, 8, 7, 8, 7] ∧
      (cursor.placesRead 5).count 0 = 3 ∧
      ∃ place, 2 ≤ (cursor.placesRead 5).count place := by
  refine ⟨by decide, ?_⟩
  obtain ⟨cursor, fresh, _, _, _, _, wrapped⟩ :=
    @reads_go_around [7, 8] (by decide) 5
  cases fresh
  exact ⟨_, rfl, rfl, rfl, rfl, rfl, wrapped.mp rfl⟩

end Cursor

end GrammaticalEvolution
