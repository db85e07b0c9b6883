import GrammaticalEvolution.Population
import Mathlib.Data.List.GetD

/-!
# The leader of a generation

A summary looks for the fittest individual by a scan of its own, which keeps an
individual where the search for the best position keeps a position and a
fitness.  Both go over to another individual at the same places, so they agree
whatever the fitness values are, equal ones and ones that are no numbers
included.  What does not depend on positions is therefore shown for the simpler
scan.
-/

namespace GrammaticalEvolution.Population

variable {ρ φ : Type}

/-- What the scan of a summary goes on with. -/
def lead (leader individual : Individual φ) : Individual φ :=
  if leader.fitness < individual.fitness then individual else leader

theorem leader_eq_foldl (population : Population ρ φ) :
    population.statistics.leader =
      population.individuals.foldl lead
        (population.individuals.headD .blank) := rfl

/-- Both scans go on alike from an individual that both have got to. -/
theorem foldl_lead {seen rest : List (Individual φ)} {position : Nat}
    {leader : Individual φ}
    (found : (seen ++ rest).getD position .blank = leader) :
    rest.foldl lead leader = (seen ++ rest).getD
      (bestFrom seen.length position leader.fitness rest) .blank := by
  induction rest generalizing seen position leader with
  | nil => exact found.symm
  | cons next rest induction =>
      have regrouped : seen ++ next :: rest = seen ++ [next] ++ rest := by simp
      have length : seen.length + 1 = (seen ++ [next]).length := by simp
      unfold bestFrom
      rw [List.foldl_cons, lead, length]
      rw [regrouped] at found ⊢
      by_cases overtaken : leader.fitness < next.fitness
      · rw [if_pos overtaken, if_pos overtaken]
        exact induction (by simp)
      · rw [if_neg overtaken, if_neg overtaken]
        exact induction found

theorem getD_bestPosition (first : Individual φ)
    (rest : List (Individual φ)) :
    (first :: rest).getD (bestPosition (first :: rest)) .blank =
      rest.foldl lead first := by
  have found : ([first] ++ rest).getD 0 .blank = first := rfl
  exact (foldl_lead found).symm

/-- The leader is the individual at the best position. -/
theorem leader_eq (population : Population ρ φ) :
    population.statistics.leader =
      population.individuals.getD
        (bestPosition population.individuals) .blank := by
  rw [leader_eq_foldl]
  cases population.individuals with
  | nil => rfl
  | cons first rest =>
      -- The scan looks at the first individual once more.
      have again : lead first first = first := ite_self first
      rw [List.headD_cons, List.foldl_cons, again, getD_bestPosition]

/-- The summary of a new generation speaks of its best individual. -/
theorem topFitness_install (population : Population ρ φ)
    (individuals : List (Individual φ)) (source : ρ) :
    (population.install individuals source).statistics.topFitness =
      (population.install individuals source).best.fitness :=
  congrArg Individual.fitness
    (leader_eq (population.install individuals source))

end GrammaticalEvolution.Population
