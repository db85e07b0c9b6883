import GrammaticalEvolution.Proofs.Population.Elitism
import GrammaticalEvolution.Proofs.Population.Statistics

/-!
# Individuals whose fitness is no number

The scan for the best individual starts at the first one and moves on to
whatever is fitter.  From a number it gets to one that no number exceeds, and
passes over everything else.  But nothing is fitter than what is no number, so
a first individual without one is never left: it counts as the best, and is
carried on, whatever the others are.
-/

namespace GrammaticalEvolution.Population

open FloatOrder

variable {ρ φ : Type}

/-- The fitness is a number that no number among the others exceeds. -/
structure Tops (individuals : List (Individual φ)) (best : Individual φ) :
    Prop where
  numeric : best.Numeric
  unbeaten : ∀ other ∈ individuals,
    other.Numeric → other.fitness ≤ best.fitness

namespace Tops

variable {seen : List (Individual φ)} {best next : Individual φ}

theorem first (numeric : next.Numeric) : Tops [next] next where
  numeric := numeric
  unbeaten other member _ := by
    rw [List.mem_singleton.mp member]
    exact le_refl numeric

theorem overtake (tops : Tops seen best)
    (overtaken : best.fitness < next.fitness) : Tops (seen ++ [next]) next := by
  have numeric : next.Numeric := (isNaN_eq_false_of_lt overtaken).2
  refine ⟨numeric, fun other member otherNumeric => ?_⟩
  rcases List.mem_append.mp member with inSeen | isNext
  · exact le_trans otherNumeric tops.numeric numeric
      (tops.unbeaten other inSeen otherNumeric)
      (le_of_lt tops.numeric numeric overtaken)
  · exact (first numeric).unbeaten other isNext otherNumeric

theorem stay (tops : Tops seen best)
    (notOvertaken : ¬ best.fitness < next.fitness) :
    Tops (seen ++ [next]) best where
  numeric := tops.numeric
  unbeaten other member otherNumeric := by
    rcases List.mem_append.mp member with inSeen | isNext
    · exact tops.unbeaten other inSeen otherNumeric
    · rw [List.mem_singleton.mp isNext] at otherNumeric ⊢
      exact le_of_not_lt otherNumeric tops.numeric notOvertaken

end Tops

/-- From a number the scan goes on with one that tops all it has seen. -/
theorem tops_foldl_lead {seen rest : List (Individual φ)}
    {leader : Individual φ} (tops : Tops seen leader) :
    Tops (seen ++ rest) (rest.foldl lead leader) := by
  induction rest generalizing seen leader with
  | nil =>
      rw [List.append_nil]
      exact tops
  | cons next rest induction =>
      rw [List.append_cons, List.foldl_cons, lead]
      by_cases overtaken : leader.fitness < next.fitness
      · rw [if_pos overtaken]
        exact induction (tops.overtake overtaken)
      · rw [if_neg overtaken]
        exact induction (tops.stay overtaken)

/-- Nothing is fitter than what is no number. -/
theorem bestFrom_of_isNaN {fitness : Float} (undefined : fitness.isNaN = true)
    (position best : Nat) (rest : List (Individual φ)) :
    bestFrom position best fitness rest = best := by
  induction rest generalizing position with
  | nil => rfl
  | cons next rest induction =>
      have notOvertaken : ¬ fitness < next.fitness := by
        intro less
        exact ne_true_of_eq_false (isNaN_eq_false_of_lt less).1 undefined
      rw [bestFrom, if_neg notOvertaken]
      exact induction (position + 1)

theorem tops_bestPosition {first : Individual φ} (numeric : first.Numeric)
    (rest : List (Individual φ)) :
    Tops (first :: rest)
      ((first :: rest).getD (bestPosition (first :: rest)) .blank) := by
  rw [getD_bestPosition]
  exact tops_foldl_lead (.first numeric)

theorem bestPosition_of_not_numeric {first : Individual φ}
    (undefined : ¬ first.Numeric) (rest : List (Individual φ)) :
    bestPosition (first :: rest) = 0 :=
  bestFrom_of_isNaN (Bool.of_not_eq_false undefined) 1 0 rest

variable [WordSource ρ] {fitness : FitnessFunction φ}
  {population : Population ρ φ}

theorem Reachable.first_cases (reachable : Reachable fitness population) :
    ∃ first rest, population.individuals = first :: rest ∧
      (first.Numeric → Tops population.individuals population.best) ∧
      (¬ first.Numeric → population.best = first) := by
  obtain ⟨size, length, upholds⟩ := reachable.upholds_fresh
  have shaped := upholds.toShaped
  obtain ⟨first, rest, whole⟩ := List.exists_cons_of_ne_nil shaped.nonempty
  rw [best, shaped.best_eq, whole]
  refine ⟨first, rest, rfl, fun numeric => tops_bestPosition numeric rest,
    fun undefined => ?_⟩
  rw [bestPosition_of_not_numeric undefined]
  rfl

/-- Whatever the fitness function, if any fitness is a number at all, the best
individual has one that no number exceeds exactly when the first individual has
a number; a first individual without one counts as the best.  Each step that
succeeds ends its generation with the best individual, so with a number exactly
when the first one has a number. -/
theorem best_tops_iff_first (reachable : Reachable fitness population) :
    ∃ first rest, population.individuals = first :: rest ∧
    (((∃ scored ∈ population.individuals, scored.Numeric) →
        Tops population.individuals population.best) ↔
      first.Numeric ∨ ∀ individual ∈ population.individuals,
        ¬ individual.Numeric) ∧
    (¬ first.Numeric → population.best = first) ∧
    ∀ crossoverRate mutationRate next,
      (population.advance crossoverRate mutationRate).value =
        (.ok (), next) →
      next.individuals.getLast? = some population.best ∧
        (population.best.Numeric ↔ first.Numeric) := by
  obtain ⟨first, rest, whole, tops, stuck⟩ := reachable.first_cases
  have numeric_iff : population.best.Numeric ↔ first.Numeric := by
    by_cases numeric : first.Numeric
    · exact iff_of_true (tops numeric).numeric numeric
    · rw [stuck numeric]
  refine ⟨first, rest, whole, ⟨fun claimed => ?_, ?_⟩, stuck, ?_⟩
  · by_cases numeric : first.Numeric
    · exact .inl numeric
    · refine .inr fun individual member scored => numeric ?_
      exact numeric_iff.mp (claimed ⟨individual, member, scored⟩).numeric
  · rintro (numeric | none) ⟨scored, member, scoredNumeric⟩
    · exact tops numeric
    · exact absurd scoredNumeric (none scored member)
  · intro crossoverRate mutationRate next advanced
    have step := population.advances crossoverRate mutationRate
    rw [advanced] at step
    cases step with
    | installed _ _ bred =>
        exact ⟨reachable.getLast?_bred bred, numeric_iff⟩

/-- One gene has no number for its fitness. -/
def undefinedGeneFitness : FitnessFunction Chromosome :=
  fun genes => pure ⟨if genes = [0] then 0.0 / 0.0 else 1.0, []⟩

/-- Four individuals, of which only the second has a number. -/
def undefinedFirst : Population ScriptedWords Chromosome :=
  ofIndividuals 4 ⟨1, undefinedGeneFitness, .singlePoint⟩
    ([[0], [1], [0], [0]].map fun genes =>
      ⟨genes, if genes = [0] then 0.0 / 0.0 else 1.0, none⟩)
    (.ofList [0])

theorem undefinedFirst_made :
    (create 4 1 undefinedGeneFitness (.ofList [0]) [[0], [1], [0], [0]] :
      Journaled (Except _ (Population ScriptedWords _))).value =
      .ok undefinedFirst := rfl

/-- A number is there, and yet the best individual and the copy of it at the
end of the next generation are without one. -/
theorem best_undefinedFirst :
    (∃ scored ∈ undefinedFirst.individuals, scored.Numeric) ∧
    ¬ undefinedFirst.best.Numeric ∧
    ∀ next, (undefinedFirst.advance 0.5 0.5).value = (.ok (), next) →
      next.individuals.getLast? = some undefinedFirst.best := by
  obtain ⟨first, rest, whole, _, stuck, copied⟩ :=
    best_tops_iff_first (.created undefinedFirst_made)
  have notNumeric : ¬ first.Numeric := by
    rw [← (List.cons.inj whole).1]
    have undefined : (0.0 / 0.0 : Float).isNaN = true := by decide
    exact ne_false_of_eq_true undefined
  refine ⟨⟨⟨[1], 1.0, none⟩, .tail _ (.head _), ?_⟩, ?_, ?_⟩
  · have number : (1.0 : Float).isNaN = false := by decide
    exact number
  · rw [stuck notNumeric]
    exact notNumeric
  · intro next advanced
    exact (copied 0.5 0.5 next advanced).1

end GrammaticalEvolution.Population
