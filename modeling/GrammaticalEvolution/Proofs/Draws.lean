import GrammaticalEvolution.Chromosome
import GrammaticalEvolution.Tournament
import Mathlib.Data.List.Basic

/-!
# What holds of every draw

A computation that draws has a property always if its result has the property
whatever the state of the source.  The property passes through sequences of
computations, so facts about single draws (an index lies below its bound, a
gene is at most the largest one) become facts about chromosomes and
tournaments.
-/

namespace GrammaticalEvolution

variable {ρ α β : Type}

/-- The result has the property, whatever is drawn. -/
def Always (action : StateM ρ α) (property : α → Prop) : Prop :=
  ∀ source, property (action.run source).1

namespace Always

theorem pure {property : α → Prop} {value : α} (holds : property value) :
    Always (pure value : StateM ρ α) property :=
  fun _ => holds

theorem bind {action : StateM ρ α} {next : α → StateM ρ β}
    {middle : α → Prop} {property : β → Prop} (first : Always action middle)
    (second : ∀ value, middle value → Always (next value) property) :
    Always (action >>= next) property :=
  fun source => second _ (first source) _

theorem mono {action : StateM ρ α} {strong weak : α → Prop}
    (always : Always action strong)
    (implies : ∀ value, strong value → weak value) : Always action weak :=
  fun source => implies _ (always source)

/-- Nothing is known of the first result. -/
theorem then_ {action : StateM ρ α} {next : α → StateM ρ β}
    {property : β → Prop} (second : ∀ value, Always (next value) property) :
    Always (action >>= next) property :=
  fun _ => second _ _

theorem mapM {items : List α} {action : α → StateM ρ β}
    {property : β → Prop}
    (each : ∀ item ∈ items, Always (action item) property) :
    Always (items.mapM action) fun results =>
      results.length = items.length ∧ ∀ result ∈ results, property result := by
  induction items with
  | nil =>
      rw [List.mapM_nil]
      exact .pure ⟨rfl, by simp⟩
  | cons item items induction =>
      rw [List.mapM_cons]
      refine .bind (each item List.mem_cons_self) ?_
      intro head headHolds
      refine .bind (induction fun other member =>
        each other (List.mem_cons_of_mem item member)) ?_
      rintro tail ⟨length, tailHolds⟩
      exact .pure ⟨by simp [length],
        List.forall_mem_cons.mpr ⟨headHolds, tailHolds⟩⟩

end Always

theorem run_bind_of_run {action : StateM ρ α} {next : α → StateM ρ β}
    {source rest : ρ} {value : α} (drawn : action.run source = (value, rest)) :
    (action >>= next).run source = (next value).run rest := by
  rw [StateT.run_bind, drawn]
  rfl

namespace Random

variable [WordSource ρ]

theorem always_drawIndex {bound : Nat} (positive : 0 < bound) :
    Always (drawIndex bound : StateM ρ Nat) (· < bound) := by
  unfold drawIndex
  rw [if_neg (Nat.pos_iff_ne_zero.mp positive)]
  refine .then_ fun word => .pure ?_
  -- The upper half of a product with a word is below the other factor.
  apply Nat.div_lt_of_lt_mul
  exact Nat.mul_lt_mul_of_pos_right word.toNat_lt positive

theorem always_drawGene :
    Always (drawGene : StateM ρ UInt32) (· ≤ maxGene) := by
  unfold drawGene
  refine .then_ fun word => .pure ?_
  have bound := word.toNat_lt
  rw [UInt32.le_iff_toNat_le, UInt32.toNat_shiftRight,
    Nat.shiftRight_eq_div_pow]
  change word.toNat / 2 ^ 24 ≤ 255
  omega

end Random

namespace Chromosome

variable [WordSource ρ]

theorem always_random (length : Nat) :
    Always (random length : StateM ρ Chromosome) fun genes =>
      genes.length = length ∧ ∀ gene ∈ genes, gene ≤ Random.maxGene := by
  induction length with
  | zero => exact .pure ⟨rfl, by simp⟩
  | succ length induction =>
      refine .bind Random.always_drawGene fun gene small => ?_
      refine .bind induction fun genes ⟨count, allSmall⟩ => ?_
      exact .pure ⟨by simp [count],
        List.forall_mem_cons.mpr ⟨small, allSmall⟩⟩

/-- A mutant has the length of its parent and no gene but the parent's and
fresh ones.  If no gene is said to have changed, none has. -/
theorem always_mutate (rate : Float) (genes : Chromosome) :
    Always (mutate rate genes : StateM ρ (Bool × Chromosome)) fun result =>
      result.2.length = genes.length ∧
        (∀ gene ∈ result.2, gene ∈ genes ∨ gene ≤ Random.maxGene) ∧
        (result.1 = false → result.2 = genes) := by
  induction genes with
  | nil => exact .pure ⟨rfl, by simp, fun _ => rfl⟩
  | cons gene genes induction =>
      refine .then_ fun chance => ?_
      split
      · refine .bind Random.always_drawGene fun fresh small => ?_
        refine .bind induction ?_
        rintro ⟨changed, rest⟩ ⟨length, known, same⟩
        refine .pure ⟨by simpa using length, ?_, ?_⟩
        · refine List.forall_mem_cons.mpr ⟨.inr small, fun other member => ?_⟩
          exact (known other member).imp_left (List.mem_cons_of_mem gene)
        · intro unchanged
          simp only [Bool.or_eq_false_iff, bne_eq_false_iff_eq] at unchanged
          exact congrArg₂ List.cons unchanged.1 (same unchanged.2)
      · refine .bind induction ?_
        rintro ⟨changed, rest⟩ ⟨length, known, same⟩
        refine .pure ⟨by simpa using length, ?_, ?_⟩
        · refine List.forall_mem_cons.mpr
            ⟨.inl List.mem_cons_self, fun other member => ?_⟩
          exact (known other member).imp_left (List.mem_cons_of_mem gene)
        · intro unchanged
          exact congrArg (List.cons gene) (same unchanged)

/-- The genes of both children are genes of the parents. -/
theorem mem_crossAt {first second : Chromosome} {point : Nat} {gene : Gene}
    (member : gene ∈ (crossAt first second point).1 ∨
      gene ∈ (crossAt first second point).2) :
    gene ∈ first ∨ gene ∈ second := by
  simp only [crossAt, List.mem_append] at member
  rcases member with (inFirst | inSecond) | inSecond | inFirst
  · exact .inl (List.mem_of_mem_take inFirst)
  · exact .inr (List.mem_of_mem_drop inSecond)
  · exact .inr (List.mem_of_mem_take inSecond)
  · exact .inl (List.mem_of_mem_drop inFirst)

theorem always_singlePoint (first second : Chromosome) :
    Always (singlePoint first second : StateM ρ (Chromosome × Chromosome))
      fun children => ∀ gene, gene ∈ children.1 ∨ gene ∈ children.2 →
        gene ∈ first ∨ gene ∈ second := by
  unfold singlePoint
  simp only
  split
  · exact .pure fun gene member => member
  · exact .then_ fun point => .pure fun gene => mem_crossAt

theorem length_crossAt {first second : Chromosome} {point : Nat}
    (inFirst : point ≤ first.length) (inSecond : point ≤ second.length) :
    (crossAt first second point).1.length = second.length ∧
      (crossAt first second point).2.length = first.length := by
  simp only [crossAt, List.length_append, List.length_take, List.length_drop]
  omega

/-- The children have the lengths of their parents, in exchange. -/
theorem always_length_singlePoint (first second : Chromosome)
    (same : first.length = second.length) :
    Always (singlePoint first second : StateM ρ (Chromosome × Chromosome))
      fun children => children.1.length = second.length ∧
        children.2.length = first.length := by
  unfold singlePoint
  simp only
  split
  · exact .pure ⟨same, same.symm⟩
  · next nonempty =>
      refine .bind (Random.always_drawIndex (Nat.pos_of_ne_zero nonempty)) ?_
      intro point inside
      apply Always.pure
      apply length_crossAt <;> omega

end Chromosome

namespace Tournament

variable [WordSource ρ]

theorem positions_lt {first draw count : Nat} (firstBelow : first < count)
    (drawBelow : draw < count - 1) :
    (positions first draw).1 < count ∧ (positions first draw).2 < count := by
  unfold positions
  refine ⟨firstBelow, ?_⟩
  simp only
  split <;> omega

theorem always_decide (fitness : List Float) (first second : Nat) :
    Always (decide fitness first second : StateM ρ Nat) fun winner =>
      winner = first ∨ winner = second := by
  unfold decide
  simp only
  split
  · exact .pure (.inl rfl)
  · split
    · exact .pure (.inr rfl)
    · refine .then_ fun coin => ?_
      split
      · exact .pure (.inl rfl)
      · exact .pure (.inr rfl)

theorem always_winner {fitness : List Float} (pair : 2 ≤ fitness.length) :
    Always (winner fitness : StateM ρ Nat) (· < fitness.length) := by
  refine .bind (Random.always_drawIndex (by omega)) fun first firstBelow => ?_
  refine .bind (Random.always_drawIndex (by omega)) fun draw drawBelow => ?_
  obtain ⟨left, right⟩ := positions_lt firstBelow drawBelow
  refine (always_decide fitness _ _).mono ?_
  rintro winner (rfl | rfl)
  · exact left
  · exact right

end Tournament

end GrammaticalEvolution
