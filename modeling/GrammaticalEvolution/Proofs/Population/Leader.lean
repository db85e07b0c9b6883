import GrammaticalEvolution.Proofs.Population.BestScan

/-!
# The leader of a summary and the best individual

A population keeps the position of its best individual, found when a generation
was installed.  A summary looks for the leader anew, in a scan that keeps no
position.  Both scans look at fitness values only, and at the same places they
go over to another individual, so that the leader stands at the position that
was kept.  This individual, and no equal one elsewhere, is the one that the
next generation ends with.
-/

namespace GrammaticalEvolution.Population

variable {ρ φ τ : Type}

/-- The search looks at fitness values only. -/
theorem bestPosition_congr {lefts : List (Individual φ)}
    {rights : List (Individual τ)}
    (same : lefts.map Individual.fitness = rights.map Individual.fitness) :
    bestPosition lefts = bestPosition rights := by
  rw [← List.forall₂_eq_eq_eq, List.forall₂_map_left_iff,
    List.forall₂_map_right_iff] at same
  refine bestPosition_of_forall₂ ?_ same
  intro left right leftOther rightOther equal otherEqual
  rw [equal, otherEqual]

theorem getElem?_bestPosition (population : Population ρ φ)
    (nonempty : population.individuals ≠ []) :
    population.individuals[bestPosition population.individuals]? =
      some population.statistics.leader := by
  have inside := bestPosition_lt nonempty
  rw [leader_eq, List.getElem?_eq_getElem inside,
    List.getD_eq_getElem _ _ inside]

variable [WordSource ρ] {fitness : FitnessFunction φ}
  {population : Population ρ φ}

/-- Whatever the fitness values are, the position that is kept is the one a new
search finds, and the individual there is the leader of the summary and the
last one of the next generation.  It is the position that the scan of the
summary leads to: if other individuals with the same fitness values stood in
these places, the leader would be the one there. -/
theorem leader_at_bestIndex (reachable : Reachable fitness population) :
    population.bestIndex = bestPosition population.individuals ∧
    population.individuals[population.bestIndex]? =
      some population.statistics.leader ∧
    population.best = population.statistics.leader ∧
    population.statistics.topFitness = population.best.fitness ∧
    (∀ {τ : Type} (other : Population ρ τ),
      other.individuals.map Individual.fitness =
        population.individuals.map Individual.fitness →
      other.individuals[population.bestIndex]? =
        some other.statistics.leader) ∧
    ∀ crossoverRate mutationRate next,
      (population.advance crossoverRate mutationRate).value =
        (.ok (), next) →
      next.individuals.getLast? = some population.statistics.leader := by
  obtain ⟨size, length, upholds⟩ := reachable.upholds_fresh
  have shaped := upholds.toShaped
  have isBest : population.best = population.statistics.leader := by
    rw [leader_eq, best, shaped.best_eq]
  refine ⟨shaped.best_eq, ?_, isBest, ?_, ?_, ?_⟩
  · rw [shaped.best_eq]
    exact getElem?_bestPosition population shaped.nonempty
  · rw [isBest]
    rfl
  · intro τ other same
    have nonempty : other.individuals ≠ [] := by
      intro none
      rw [none] at same
      exact shaped.nonempty (List.map_eq_nil_iff.mp same.symm)
    rw [shaped.best_eq, ← bestPosition_congr same]
    exact getElem?_bestPosition other nonempty
  · intro crossoverRate mutationRate next advanced
    have step := population.advances crossoverRate mutationRate
    rw [advanced] at step
    cases step with
    | installed _ _ bred =>
        rw [← isBest]
        exact reachable.getLast?_bred bred

/-- One chromosome has no number for its fitness, all others are infinitely
fit. -/
def tiedFitness : FitnessFunction Chromosome :=
  fun genes => pure ⟨if genes = [0] then 0.0 / 0.0 else 1.0 / 0.0, []⟩

def tiedSeeds : List Chromosome := [[1], [0], [1], [1]]

def tied : Population ScriptedWords Chromosome :=
  ofIndividuals 4 ⟨1, tiedFitness, .singlePoint⟩
    (tiedSeeds.map fun genes =>
      ⟨genes, if genes = [0] then 0.0 / 0.0 else 1.0 / 0.0, none⟩)
    (.ofList [0])

theorem tied_made :
    (create 4 1 tiedFitness (.ofList [0]) tiedSeeds :
      Journaled (Except _ (Population ScriptedWords _))).value =
      .ok tied := rfl

/-- The tied individuals with their positions for phenotypes. -/
def tiedNumbered : Population ScriptedWords Nat :=
  ofIndividuals 4 ⟨1, fun _ => pure ⟨0.0, []⟩, .singlePoint⟩
    (tied.individuals.mapIdx fun position individual =>
      ⟨individual.chromosome, individual.fitness, some position⟩)
    (.ofList [0])

/-- Of three equal individuals the first one leads. -/
theorem leader_tied :
    tied.best = tied.statistics.leader ∧
    tiedNumbered.statistics.leader.phenotype = some 0 ∧
    ∀ next, (tied.advance 0.5 0.5).value = (.ok (), next) →
      next.individuals.getLast? = some tied.statistics.leader := by
  obtain ⟨_, _, isBest, _, samePlace, carried⟩ :=
    leader_at_bestIndex (.created tied_made)
  refine ⟨isBest, ?_, fun next => carried 0.5 0.5 next⟩
  have first : tied.bestIndex = 0 := by decide
  have led := samePlace tiedNumbered rfl
  rw [first] at led
  rw [← Option.some.inj led]
  rfl

end GrammaticalEvolution.Population
