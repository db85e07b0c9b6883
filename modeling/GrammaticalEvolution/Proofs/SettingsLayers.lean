import GrammaticalEvolution.Proofs.Toml.Documents
import GrammaticalEvolution.Settings.Path

/-!
# Layers of plain settings

Entries with plain names that no other entry has are laid over a table by
putting them behind its entries.  Their order does not count, because an entry
is looked up by its name.
-/

namespace GrammaticalEvolution

namespace Setting

variable {name : String} {before entries : Entries}

/-- A value that is laid over nothing as it is. -/
def Settled (value : Setting) : Prop :=
  overlay value .nothing = value

theorem alterEntry_fresh (fresh : ∀ entry ∈ before, entry.1 ≠ name)
    (change : Setting → Setting) :
    alterEntry name change before = before ++ [(name, change .nothing)] := by
  induction before with
  | nil => rfl
  | cons entry before induction =>
      obtain ⟨other, others⟩ := List.forall_mem_cons.mp fresh
      rw [alterEntry, if_neg other, induction others, List.cons_append]

theorem fresh_of_nodup {entry : String × Setting}
    (distinct : ((before ++ entry :: entries).map Prod.fst).Nodup) :
    ∀ earlier ∈ before, earlier.1 ≠ entry.1 := by
  rw [List.map_append] at distinct
  exact fun earlier member =>
    (List.nodup_append.mp distinct).2.2 _ (List.mem_map_of_mem member) _
      (List.mem_map_of_mem List.mem_cons_self)

theorem overlayEntries_fresh
    (distinct : ((before ++ entries).map Prod.fst).Nodup)
    (settled : ∀ entry ∈ entries, entry.2.Settled) :
    overlayEntries entries (.table before) = .table (before ++ entries) := by
  induction entries generalizing before with
  | nil => rw [overlayEntries, List.append_nil]
  | cons entry entries induction =>
      obtain ⟨first, others⟩ := List.forall_mem_cons.mp settled
      rw [overlayEntries, overlayEntry, withEntry, Setting.entries,
        alterEntry_fresh (fresh_of_nodup distinct), first]
      rw [List.append_cons before entry entries] at distinct ⊢
      exact induction distinct others

theorem settled_table (distinct : (entries.map Prod.fst).Nodup)
    (settled : ∀ entry ∈ entries, entry.2.Settled) :
    (table entries).Settled := by
  change overlayEntries entries (table []) = table ([] ++ entries)
  exact overlayEntries_fresh distinct settled

theorem ofText_bare (bare : Toml.BareName name.toList) :
    SettingPath.ofText name = ⟨name, []⟩ := by
  have taken : name.toList.takeWhile SettingPath.isNameChar = name.toList :=
    List.takeWhile_eq_self_iff.mpr bare.plain
  have dropped : name.toList.dropWhile SettingPath.isNameChar = [] :=
    List.dropWhile_eq_nil_iff.mpr bare.plain
  unfold SettingPath.ofText
  simp only [taken, dropped]
  split
  · next empty => exact absurd empty bare.filled
  · cases name.toList.length <;> simp [SettingPath.readSteps?]

theorem assignAll_fresh
    (bare : ∀ entry ∈ entries, Toml.BareName entry.1.toList)
    (distinct : ((before ++ entries).map Prod.fst).Nodup)
    (settled : ∀ entry ∈ entries, entry.2.Settled) :
    (table before).assignAll entries = .table (before ++ entries) := by
  induction entries generalizing before with
  | nil => rw [List.append_nil]; rfl
  | cons entry entries induction =>
      obtain ⟨plain, bare⟩ := List.forall_mem_cons.mp bare
      obtain ⟨first, others⟩ := List.forall_mem_cons.mp settled
      have assigned : (SettingPath.ofText entry.1).assign entry.2
          (table before) = .table (before ++ [entry]) := by
        rw [ofText_bare plain, SettingPath.assign, withEntry, Setting.entries,
          alterEntry_fresh (fresh_of_nodup distinct), SettingPath.alterAt,
          first]
      rw [assignAll, List.foldl_cons, assigned]
      rw [List.append_cons before entry entries] at distinct ⊢
      exact induction bare distinct others

theorem lookup_perm {others : Entries} (perm : entries.Perm others)
    (distinct : (entries.map Prod.fst).Nodup) (name : String) :
    entries.lookup name = others.lookup name := by
  induction perm with
  | nil => rfl
  | cons entry _ induction =>
      rw [List.lookup_cons, List.lookup_cons,
        induction (List.nodup_cons.mp distinct).2]
  | swap first second rest =>
      obtain ⟨firstName, _⟩ := first
      obtain ⟨secondName, _⟩ := second
      have different : secondName ≠ firstName :=
        fun same => (List.nodup_cons.mp distinct).1 (same ▸ List.mem_cons_self)
      simp only [List.lookup_cons]
      by_cases here : name = secondName
      · rw [here, beq_self_eq_true, beq_false_of_ne different]
      · rw [beq_false_of_ne here]
  | trans first _ before after =>
      exact (before distinct).trans
        (after ((first.map Prod.fst).nodup_iff.mp distinct))

end Setting

end GrammaticalEvolution
