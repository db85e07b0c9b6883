import GrammaticalEvolution.Proofs.FloatOrder
import GrammaticalEvolution.Proofs.Population.Memo

/-!
# Elitism

If every fitness is a number, the scan for the best individual finds the first
one that no other is fitter than.  A generation that is installed ends with
the best individual of the one before, whatever happened to its two copies in
front, so the best fitness never decreases.
-/

namespace GrammaticalEvolution

variable {ρ φ : Type}

open FloatOrder

/-- The fitness compares with every number. -/
def Individual.Numeric (individual : Individual φ) : Prop :=
  individual.fitness.isNaN = false

namespace Population

/-- Fitter than all before, and none after is fitter. -/
structure Leads (before : List (Individual φ)) (best : Individual φ)
    (after : List (Individual φ)) : Prop where
  fitter : ∀ other ∈ before, other.fitness < best.fitness
  unbeaten : ∀ other ∈ after, other.fitness ≤ best.fitness

/-- The individual at a position leads among the others of a list. -/
def FirstBest (individuals : List (Individual φ)) (position : Nat)
    (best : Individual φ) : Prop :=
  ∃ before after,
    individuals = before ++ best :: after ∧ before.length = position ∧
      Leads before best after

namespace Leads

variable {before after : List (Individual φ)} {best next : Individual φ}

theorem le (leads : Leads before best after)
    (numeric : ∀ individual ∈ before ++ best :: after, individual.Numeric)
    {other : Individual φ} (member : other ∈ before ++ best :: after) :
    other.fitness ≤ best.fitness := by
  have bestNumeric : best.Numeric := numeric best (by simp)
  rcases List.mem_append.mp member with inBefore | inRest
  · exact le_of_lt (numeric other member) bestNumeric
      (leads.fitter other inBefore)
  · rcases List.mem_cons.mp inRest with rfl | inAfter
    · exact le_refl bestNumeric
    · exact leads.unbeaten other inAfter

theorem overtake (leads : Leads before best after)
    (numeric : ∀ individual ∈ before ++ best :: after, individual.Numeric)
    (nextNumeric : next.Numeric) (overtaken : best.fitness < next.fitness) :
    Leads (before ++ best :: after) next [] where
  fitter other member :=
    lt_of_le_of_lt (numeric other member) (numeric best (by simp))
      nextNumeric (leads.le numeric member) overtaken
  unbeaten := List.forall_mem_nil _

theorem stay (leads : Leads before best after) (bestNumeric : best.Numeric)
    (nextNumeric : next.Numeric)
    (notOvertaken : ¬ best.fitness < next.fitness) :
    Leads before best (after ++ [next]) where
  fitter := leads.fitter
  unbeaten other member := by
    rcases List.mem_append.mp member with inAfter | isNext
    · exact leads.unbeaten other inAfter
    · rw [List.mem_singleton.mp isNext]
      exact le_of_not_lt nextNumeric bestNumeric notOvertaken

end Leads

namespace FirstBest

variable {individuals : List (Individual φ)} {position : Nat}
  {best : Individual φ}

theorem getD_eq (first : FirstBest individuals position best) :
    individuals.getD position .blank = best := by
  obtain ⟨before, after, rfl, rfl, _⟩ := first
  simp

theorem le (first : FirstBest individuals position best)
    (numeric : ∀ individual ∈ individuals, individual.Numeric)
    {other : Individual φ} (member : other ∈ individuals) :
    other.fitness ≤ best.fitness := by
  obtain ⟨before, after, rfl, _, leads⟩ := first
  exact leads.le numeric member

end FirstBest

/-- The scan goes on with the one that leads among what it has seen. -/
theorem firstBest_bestFrom {before seen rest : List (Individual φ)}
    {best : Individual φ}
    (numeric : ∀ individual ∈ before ++ best :: (seen ++ rest),
      individual.Numeric)
    (leads : Leads before best seen) :
    ∃ leader, FirstBest (before ++ best :: (seen ++ rest))
      (bestFrom (before.length + 1 + seen.length) before.length
        best.fitness rest) leader := by
  induction rest generalizing before seen best with
  | nil =>
      rw [List.append_nil]
      exact ⟨best, before, seen, rfl, rfl, leads⟩
  | cons next rest induction =>
      have bestNumeric : best.Numeric := numeric best (by simp)
      have nextNumeric : next.Numeric := numeric next (by simp)
      unfold bestFrom
      by_cases overtaken : best.fitness < next.fitness
      · rw [if_pos overtaken]
        have regrouped : before ++ best :: (seen ++ next :: rest) =
            (before ++ best :: seen) ++ next :: ([] ++ rest) := by simp
        have length : before.length + 1 + seen.length =
            (before ++ best :: seen).length := by
          rw [List.length_append, List.length_cons]
          omega
        rw [regrouped] at numeric ⊢
        rw [length]
        refine induction numeric (leads.overtake ?_ nextNumeric overtaken)
        exact fun other member => numeric other (List.mem_append_left _ member)
      · rw [if_neg overtaken]
        have regrouped : seen ++ next :: rest = seen ++ [next] ++ rest := by
          simp
        have length : before.length + 1 + seen.length + 1 =
            before.length + 1 + (seen ++ [next]).length := by
          rw [List.length_append, List.length_singleton]
          omega
        rw [regrouped] at numeric ⊢
        rw [length]
        exact induction numeric (leads.stay bestNumeric nextNumeric overtaken)

theorem firstBest_bestPosition {individuals : List (Individual φ)}
    (nonempty : individuals ≠ [])
    (numeric : ∀ individual ∈ individuals, individual.Numeric) :
    FirstBest individuals (bestPosition individuals)
      (individuals.getD (bestPosition individuals) .blank) := by
  cases individuals with
  | nil => exact absurd rfl nonempty
  | cons first rest =>
      obtain ⟨leader, found⟩ :
          ∃ leader, FirstBest (first :: rest)
            (bestPosition (first :: rest)) leader :=
        @firstBest_bestFrom φ [] [] rest first numeric
          ⟨List.forall_mem_nil _, List.forall_mem_nil _⟩
      rwa [found.getD_eq]

section Runs

variable [WordSource ρ] {fitness : FitnessFunction φ}
  {population : Population ρ φ}

theorem Reachable.numeric (reachable : Reachable fitness population)
    (numbers : ∀ genes, (fitness genes).value.fitness.isNaN = false) :
    ∀ individual ∈ population.individuals, individual.Numeric := by
  intro individual member
  have fresh := reachable.fresh individual (List.mem_append_left _ member)
  rw [Individual.Numeric, fresh.fitness_eq]
  exact numbers individual.chromosome

theorem Reachable.firstBest (reachable : Reachable fitness population)
    (numbers : ∀ genes, (fitness genes).value.fitness.isNaN = false) :
    FirstBest population.individuals population.bestIndex
      population.best := by
  obtain ⟨size, length, upholds⟩ := reachable.upholds_fresh
  rw [best, upholds.toShaped.best_eq]
  exact firstBest_bestPosition upholds.toShaped.nonempty
    (reachable.numeric numbers)

/-- The best individual is the last one of the next generation. -/
theorem Reachable.getLast?_bred (reachable : Reachable fitness population)
    {crossoverRate mutationRate : Float} {individuals : List (Individual φ)}
    {source : ρ}
    (bred : (Breeding.quiet
      (population.breed crossoverRate mutationRate)).run population.source =
        (.ok individuals, source)) :
    individuals.getLast? = some population.best := by
  obtain ⟨size, length, upholds⟩ := reachable.upholds_fresh
  have keeps := Breeder.keeps_fresh (ρ := ρ) upholds.fitness_eq
  exact (upholds.toShaped.bred keeps upholds.current bred).2.1

theorem Reachable.best_le_perform (reachable : Reachable fitness population)
    (numbers : ∀ genes, (fitness genes).value.fitness.isNaN = false)
    (call : Call φ) :
    population.best.fitness ≤ (population.perform call).best.fitness := by
  have bestNumeric :=
    reachable.numeric numbers population.best reachable.best_mem
  have later := reachable.called call
  have change := population.changes call
  generalize population.perform call = next at change later
  cases change with
  | moved kept => exact le_refl bestNumeric
  | recombined asked => exact le_refl bestNumeric
  | installed asked replaced bred =>
      have last := List.mem_of_getLast? (reachable.getLast?_bred bred)
      exact (later.firstBest numbers).le (later.numeric numbers) last

theorem Reachable.best_le_after (reachable : Reachable fitness population)
    (numbers : ∀ genes, (fitness genes).value.fitness.isNaN = false)
    (calls : List (Call φ)) :
    population.best.fitness ≤ (population.after calls).best.fitness := by
  have bestNumeric : ∀ {population : Population ρ φ},
      Reachable fitness population → population.best.Numeric :=
    fun reachable => reachable.numeric numbers _ reachable.best_mem
  induction calls generalizing population with
  | nil => exact le_refl (bestNumeric reachable)
  | cons call calls induction =>
      have next := reachable.called call
      exact le_trans (bestNumeric reachable) (bestNumeric next)
        (bestNumeric (next.after calls))
        (reachable.best_le_perform numbers call) (induction next)

/-- If every fitness is a number, the best individual is the first that no
other is fitter than; each step that succeeds ends its generation with it; and
no individual of any generation is ever fitter than the best one from then
on. -/
theorem elitism (reachable : Reachable fitness population)
    (numbers : ∀ genes, (fitness genes).value.fitness.isNaN = false) :
    FirstBest population.individuals population.bestIndex population.best ∧
    (∀ crossoverRate mutationRate next,
      (population.advance crossoverRate mutationRate).value =
        (.ok (), next) →
      next.individuals.getLast? = some population.best) ∧
    ∀ calls,
      population.best.fitness ≤ (population.after calls).best.fitness ∧
      ∀ individual ∈ population.individuals,
        individual.fitness ≤ (population.after calls).best.fitness := by
  have first := reachable.firstBest numbers
  refine ⟨first, ?_, fun calls => ?_⟩
  · intro crossoverRate mutationRate next advanced
    have step := population.advances crossoverRate mutationRate
    rw [advanced] at step
    cases step with
    | installed _ _ bred => exact reachable.getLast?_bred bred
  · have grown := reachable.best_le_after numbers calls
    refine ⟨grown, fun individual member => ?_⟩
    have later := reachable.after calls
    exact le_trans (reachable.numeric numbers individual member)
      (reachable.numeric numbers _ reachable.best_mem)
      (later.numeric numbers _ later.best_mem)
      (first.le (reachable.numeric numbers) member) grown

theorem elitism_quartet :
    quartet.best.chromosome = [1] ∧
    ∀ calls, 1.0 ≤ (quartet.after calls).best.fitness := by
  have reachable : Reachable singleGeneFitness quartet := .created quartet_made
  have numbers : ∀ genes,
      (singleGeneFitness genes).value.fitness.isNaN = false := by
    intro genes
    change (if genes = [1] then 1.0 else 0.0 : Float).isNaN = false
    by_cases single : genes = [1]
    · rw [if_pos single]
      decide
    · rw [if_neg single]
      decide
  refine ⟨by decide, fun calls => ?_⟩
  exact ((elitism reachable numbers).2.2 calls).2
    ⟨[1], 1.0, some [1]⟩ (.tail _ (.tail _ (.head _)))

end Runs

end Population

end GrammaticalEvolution
