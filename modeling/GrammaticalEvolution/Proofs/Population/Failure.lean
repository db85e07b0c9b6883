import GrammaticalEvolution.Proofs.Population.Mating
import GrammaticalEvolution.Proofs.Population.Memo
import GrammaticalEvolution.Proofs.Rates

/-!
# Failures of a step

A step of evolution fails for one of three reasons: the crossover rate is
outside, the mutation rate is outside, or a mating that takes place has a child
of another length.  Selection never fails, because fewer individuals are asked
for than there are.  A step that fails keeps everything but the source, and the
source too if a rate is refused.
-/

namespace GrammaticalEvolution

variable {ρ φ : Type} [WordSource ρ]

namespace Population

variable {population : Population ρ φ} {crossoverRate mutationRate : Float}

/-- The mating takes place in a step at these rates: after the rates have been
accepted and the parents have been selected. -/
structure Mates (population : Population ρ φ)
    (crossoverRate mutationRate : Float) (mating : Mating) : Prop where
  crossoverInside : RateInside crossoverRate
  mutationInside : RateInside mutationRate
  performed : ∃ winners source,
    (selectFrom population.individuals (population.size - 3)).run
      population.source = (.ok winners, source) ∧
    population.breeder.Performs
      (Breeder.eventCount (winners.length + 2) crossoverRate)
      (population.best :: population.best :: winners) source mating

omit [WordSource ρ] in
theorem Shaped.available {size length : Nat}
    (shaped : Shaped size length population) :
    population.size - 3 ≤ population.individuals.length := by
  rw [shaped.size_eq, shaped.count]
  exact Nat.sub_le size 3

/-- Parents can always be selected. -/
theorem Shaped.selects {size length : Nat}
    (shaped : Shaped size length population) :
    ∃ winners source,
      (selectFrom population.individuals (population.size - 3)).run
        population.source = (.ok winners, source) ∧
      ∀ winner ∈ winners, winner ∈ population.individuals := by
  obtain ⟨winners, selected, _, members⟩ :=
    always_selectFrom shaped.available population.source
  exact ⟨winners, _, Prod.ext selected rfl, members⟩

/-- After the selection, breeding fails in a crossover event or not at all. -/
theorem run_breed_error_iff {winners : List (Individual φ)} {source : ρ}
    (selected : (selectFrom population.individuals (population.size - 3)).run
      population.source = (.ok winners, source)) {error : PopulationError} :
    ((Breeding.quiet (population.breed crossoverRate mutationRate)).run
        population.source).1 = .error error ↔
      ((Breeding.quiet (population.breeder.crossEvents
        (Breeder.eventCount (winners.length + 2) crossoverRate)
        (population.best :: population.best :: winners))).run
          source).1.2 = some error := by
  unfold breed
  simp only [Breeding.quiet_bind, Breeding.quiet_draw]
  rw [run_bind_of_run selected]
  simp only [Breeding.quiet_bind, Breeder.crossover, reduceCtorEq, if_false,
    List.length_cons]
  generalize crossed : (Breeding.quiet (population.breeder.crossEvents
    (Breeder.eventCount (winners.length + 2) crossoverRate)
    (population.best :: population.best :: winners))).run source = outcome
  obtain ⟨⟨individuals, failure⟩, rest⟩ := outcome
  rw [run_bind_of_run crossed]
  cases failure with
  | none => exact ⟨nofun, nofun⟩
  | some failure =>
      constructor
      · intro failed
        exact congrArg some (Except.error.inj failed)
      · intro failed
        exact congrArg Except.error (Option.some.inj failed)

theorem advance_of_crossover_outside (outside : ¬ RateInside crossoverRate) :
    (population.advance crossoverRate mutationRate).value =
      (.error (.rateOutside .crossover crossoverRate), population) := by
  have refused : checkRate .crossover crossoverRate =
      .error (.rateOutside .crossover crossoverRate) :=
    checkRate_eq_error_iff.mpr ⟨outside, rfl⟩
  rw [advance, refused]
  rfl

theorem advance_of_mutation_outside (inside : RateInside crossoverRate)
    (outside : ¬ RateInside mutationRate) :
    (population.advance crossoverRate mutationRate).value =
      (.error (.rateOutside .mutation mutationRate), population) := by
  have accepted : checkRate .crossover crossoverRate = .ok () :=
    checkRate_eq_ok_iff.mpr inside
  have refused : checkRate .mutation mutationRate =
      .error (.rateOutside .mutation mutationRate) :=
    checkRate_eq_error_iff.mpr ⟨outside, rfl⟩
  rw [advance, accepted, refused]
  rfl

/-- A rate outside is refused, and the population stays as it is. -/
theorem advance_of_outside (population : Population ρ φ)
    (outside : ¬ (RateInside crossoverRate ∧ RateInside mutationRate)) :
    ∃ error, (population.advance crossoverRate mutationRate).value =
      (.error error, population) := by
  by_cases crossoverInside : RateInside crossoverRate
  · have mutationOutside : ¬ RateInside mutationRate :=
      fun mutationInside => outside ⟨crossoverInside, mutationInside⟩
    exact ⟨_, advance_of_mutation_outside crossoverInside mutationOutside⟩
  · exact ⟨_, advance_of_crossover_outside crossoverInside⟩

/-- With both rates inside, a step ends as breeding does. -/
theorem advance_of_inside (crossoverInside : RateInside crossoverRate)
    (mutationInside : RateInside mutationRate)
    {result : Except PopulationError (List (Individual φ))} {source : ρ}
    (bred : (Breeding.quiet (population.breed crossoverRate mutationRate)).run
      population.source = (result, source)) :
    (population.advance crossoverRate mutationRate).value =
      match result with
      | .error error => (.error error, { population with source := source })
      | .ok individuals => (.ok (), population.install individuals source) := by
  have crossoverAccepted : checkRate .crossover crossoverRate = .ok () :=
    checkRate_eq_ok_iff.mpr crossoverInside
  have mutationAccepted : checkRate .mutation mutationRate = .ok () :=
    checkRate_eq_ok_iff.mpr mutationInside
  change ((population.breed crossoverRate mutationRate).run
    population.source).value = (result, source) at bred
  rw [advance, crossoverAccepted, mutationAccepted]
  simp only [Journaled.value_bind, bred]
  cases result <;> rfl

theorem advance_error_iff_breed (crossoverInside : RateInside crossoverRate)
    (mutationInside : RateInside mutationRate) {error : PopulationError} :
    (population.advance crossoverRate mutationRate).value.1 = .error error ↔
      ((Breeding.quiet (population.breed crossoverRate mutationRate)).run
        population.source).1 = .error error := by
  generalize bred : (Breeding.quiet
    (population.breed crossoverRate mutationRate)).run
      population.source = outcome
  obtain ⟨result, source⟩ := outcome
  rw [advance_of_inside crossoverInside mutationInside bred]
  cases result with
  | error _ => simp
  | ok _ => exact ⟨nofun, nofun⟩

/-- Why a step fails, and with which error. -/
theorem Shaped.advance_error_iff {size length : Nat}
    (shaped : Shaped size length population) {error : PopulationError} :
    (population.advance crossoverRate mutationRate).value.1 = .error error ↔
      ¬ RateInside crossoverRate ∧
        error = .rateOutside .crossover crossoverRate ∨
      RateInside crossoverRate ∧ ¬ RateInside mutationRate ∧
        error = .rateOutside .mutation mutationRate ∨
      ∃ mating child, population.Mates crossoverRate mutationRate mating ∧
        population.breeder.misfit? mating.children = some child ∧
        error = .chromosomeLength population.breeder.chromosomeLength
          child.length := by
  obtain ⟨winners, source, selected, _⟩ := shaped.selects
  by_cases crossoverInside : RateInside crossoverRate
  · by_cases mutationInside : RateInside mutationRate
    · have mates : ∀ mating,
          population.Mates crossoverRate mutationRate mating ↔
            population.breeder.Performs
              (Breeder.eventCount (winners.length + 2) crossoverRate)
              (population.best :: population.best :: winners) source
              mating := by
        intro mating
        constructor
        · rintro ⟨_, _, others, rest, same, performed⟩
          obtain ⟨sameWinners, rfl⟩ := Prod.mk.inj (same.symm.trans selected)
          obtain rfl := Except.ok.inj sameWinners
          exact performed
        · intro performed
          exact ⟨crossoverInside, mutationInside, winners, source, selected,
            performed⟩
      rw [advance_error_iff_breed crossoverInside mutationInside,
        run_breed_error_iff selected, Breeder.run_crossEvents_error_iff]
      simp only [crossoverInside, mutationInside, mates, not_true, false_and,
        and_false, false_or]
    · have unmated : ∀ mating,
          ¬ population.Mates crossoverRate mutationRate mating :=
        fun mating mates => mutationInside mates.mutationInside
      rw [advance_of_mutation_outside crossoverInside mutationInside]
      simp [crossoverInside, mutationInside, unmated, eq_comm]
  · have unmated : ∀ mating,
        ¬ population.Mates crossoverRate mutationRate mating :=
      fun mating mates => crossoverInside mates.crossoverInside
    rw [advance_of_crossover_outside crossoverInside]
    simp [crossoverInside, unmated, eq_comm]

/-- Only a custom recombination can have children that do not fit. -/
theorem Shaped.born {size length : Nat}
    (shaped : Shaped size length population) {mating : Mating}
    (mates : population.Mates crossoverRate mutationRate mating) :
    (∀ cross, population.breeder.recombination = .custom cross →
      mating.children = cross mating.parents.1 mating.parents.2) ∧
    (population.breeder.recombination = .singlePoint →
      population.breeder.misfit? mating.children = none) := by
  obtain ⟨winners, source, selected, performed⟩ := mates.performed
  obtain ⟨others, rest, alsoSelected, members⟩ := shaped.selects
  obtain ⟨sameWinners, _⟩ := Prod.mk.inj (alsoSelected.symm.trans selected)
  obtain rfl := Except.ok.inj sameWinners
  apply performed.born (Nat.succ_pos _)
  intro individual member
  rw [shaped.length_eq]
  rcases List.mem_cons.mp member with rfl | member
  · exact shaped.members _ shaped.best_mem
  rcases List.mem_cons.mp member with rfl | member
  · exact shaped.members _ shaped.best_mem
  · exact shaped.members individual (members individual member)

theorem Reachable.shaped {fitness : FitnessFunction φ}
    (reachable : Reachable fitness population) :
    ∃ size length, Shaped size length population := by
  obtain ⟨size, length, upholds⟩ := reachable.upholds_fresh
  exact ⟨size, length, upholds.toShaped⟩

theorem Shaped.advance_fails_iff {size length : Nat}
    (shaped : Shaped size length population) :
    (∃ error, (population.advance crossoverRate mutationRate).value.1 =
        .error error) ↔
      ¬ RateInside crossoverRate ∨ ¬ RateInside mutationRate ∨
      ∃ cross mating, population.breeder.recombination = .custom cross ∧
        population.Mates crossoverRate mutationRate mating ∧
        ((cross mating.parents.1 mating.parents.2).1.length ≠
            population.breeder.chromosomeLength ∨
          (cross mating.parents.1 mating.parents.2).2.length ≠
            population.breeder.chromosomeLength) := by
  constructor
  · rintro ⟨error, failed⟩
    rcases shaped.advance_error_iff.mp failed with
      ⟨outside, _⟩ | ⟨_, outside, _⟩ | ⟨mating, child, mates, misfit, _⟩
    · exact .inl outside
    · exact .inr (.inl outside)
    · obtain ⟨custom, singlePoint⟩ := shaped.born mates
      cases way : population.breeder.recombination with
      | singlePoint => exact nomatch misfit.symm.trans (singlePoint way)
      | custom cross =>
          refine .inr (.inr ⟨cross, mating, rfl, mates, ?_⟩)
          rw [← custom cross way, ← not_and_or]
          intro fits
          exact nomatch misfit.symm.trans
            (Breeder.misfit?_eq_none_iff.mpr fits)
  · rw [← or_assoc, ← not_and_or]
    rintro (outside | ⟨cross, mating, way, mates, misfit⟩)
    · obtain ⟨error, refused⟩ := population.advance_of_outside outside
      exact ⟨error, congrArg Prod.fst refused⟩
    · obtain ⟨custom, _⟩ := shaped.born mates
      rw [← custom cross way, ← not_and_or,
        ← Breeder.misfit?_eq_none_iff] at misfit
      obtain ⟨child, found⟩ := Option.ne_none_iff_exists'.mp misfit
      exact ⟨_, shaped.advance_error_iff.mpr
        (.inr (.inr ⟨mating, child, mates, found, rfl⟩))⟩

/-- Without a custom recombination only the rates decide. -/
theorem Shaped.advance_succeeds {size length : Nat}
    (shaped : Shaped size length population)
    (singlePoint : population.breeder.recombination = .singlePoint)
    (crossoverInside : RateInside crossoverRate)
    (mutationInside : RateInside mutationRate) :
    (population.advance crossoverRate mutationRate).value.1 = .ok () := by
  cases result : (population.advance crossoverRate mutationRate).value.1 with
  | ok _ => rfl
  | error error =>
      rcases shaped.advance_fails_iff.mp ⟨error, result⟩ with
        outside | outside | ⟨cross, _, custom, _⟩
      · exact absurd crossoverInside outside
      · exact absurd mutationInside outside
      · exact nomatch singlePoint.symm.trans custom

/-- A step happens completely or not at all.  It fails if and only if a rate is
outside or a mating that takes place is by a custom recombination and has a
child of another length, so that it cannot fail with single-point recombination
and rates inside.  If it succeeds, it counts one generation, keeps the
individuals that it replaces as the previous ones, and has looked for the best
of the new ones, which are as many. -/
theorem step_all_or_nothing {fitness : FitnessFunction φ}
    (reachable : Reachable fitness population)
    (crossoverRate mutationRate : Float) :
    ((∃ error, (population.advance crossoverRate mutationRate).value.1 =
        .error error) ↔
      ¬ RateInside crossoverRate ∨ ¬ RateInside mutationRate ∨
      ∃ cross mating, population.breeder.recombination = .custom cross ∧
        population.Mates crossoverRate mutationRate mating ∧
        ((cross mating.parents.1 mating.parents.2).1.length ≠
            population.breeder.chromosomeLength ∨
          (cross mating.parents.1 mating.parents.2).2.length ≠
            population.breeder.chromosomeLength)) ∧
    (population.breeder.recombination = .singlePoint →
      RateInside crossoverRate → RateInside mutationRate →
      (population.advance crossoverRate mutationRate).value.1 = .ok ()) ∧
    (∀ error next, (population.advance crossoverRate mutationRate).value =
        (.error error, next) →
      (∃ source, next = { population with source := source }) ∧
      (¬ RateInside crossoverRate ∨ ¬ RateInside mutationRate →
        next = population)) ∧
    ∀ next, (population.advance crossoverRate mutationRate).value =
        (.ok (), next) →
      next.generation = population.generation + 1 ∧
      next.previous = population.individuals ∧
      next.individuals.length = population.size ∧
      next.bestIndex = bestPosition next.individuals ∧
      next.size = population.size ∧ next.breeder = population.breeder := by
  obtain ⟨size, length, shaped⟩ := reachable.shaped
  refine ⟨shaped.advance_fails_iff, shaped.advance_succeeds, ?_, ?_⟩
  · intro error next failed
    refine ⟨?_, ?_⟩
    · have step := population.advances crossoverRate mutationRate
      rw [failed] at step
      cases step with
      | rejected => exact ⟨population.source, rfl⟩
      | failed => exact ⟨_, rfl⟩
    · intro outside
      obtain ⟨_, refused⟩ := population.advance_of_outside
        (not_and_or.mpr outside)
      exact (Prod.mk.inj (failed.symm.trans refused)).2
  · intro next done
    have step := population.advances crossoverRate mutationRate
    rw [done] at step
    cases step with
    | installed _ _ bred =>
        have grown := (Shaped.invariant fun _ => True).installed population
          crossoverRate mutationRate _ _ shaped bred
        exact ⟨rfl, rfl, grown.count.trans shaped.size_eq.symm, rfl, rfl, rfl⟩

/-- A child with one gene more than its parent. -/
def grow (first second : Chromosome) : Chromosome × Chromosome :=
  (first ++ [0], second)

theorem step_quartet :
    (quartet.advance 1.0 0.5).value.1 = .ok () ∧
    (quartet.advance 1.0 0.5).value.2.generation = 1 ∧
    (∃ error, (quartet.advance (0.0 / 0.0) 0.5).value.1 = .error error) ∧
    ∃ source, ((quartet.perform (.recombineBy (.custom grow))).advance
        1.0 0.5).value.2 =
      { quartet.perform (.recombineBy (.custom grow)) with
        source := source } := by
  have reachable : Reachable singleGeneFitness quartet := .created quartet_made
  have full : RateInside 1.0 := ⟨by decide, by decide⟩
  have half : RateInside 0.5 := ⟨by decide, by decide⟩
  have undefined : ¬ RateInside (0.0 / 0.0) :=
    fun inside => absurd inside.1 (by decide)
  obtain ⟨_, succeeds, _, grown⟩ := step_all_or_nothing reachable 1.0 0.5
  have done := succeeds rfl full half
  obtain ⟨fails, _⟩ := step_all_or_nothing reachable (0.0 / 0.0) 0.5
  refine ⟨done, (grown _ (Prod.ext done rfl)).1, fails.mpr (.inl undefined), ?_⟩
  obtain ⟨_, _, kept, _⟩ := step_all_or_nothing
    (reachable.called (.recombineBy (.custom grow))) 1.0 0.5
  cases grown : ((quartet.perform (.recombineBy (.custom grow))).advance
    1.0 0.5).value with
  | mk result next =>
      cases result with
      | error error => exact (kept error next grown).1
      | ok _ =>
          have failed : ((quartet.perform (.recombineBy (.custom
            grow))).advance 1.0 0.5).value.1.toBool = false := by
              decide +kernel
          rw [grown] at failed
          exact nomatch failed

end Population

end GrammaticalEvolution
