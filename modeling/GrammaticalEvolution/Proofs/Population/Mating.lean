import GrammaticalEvolution.Proofs.Population.Breeding

/-!
# Crossover events

In a crossover event two positions are drawn, and the individuals there mate.
Children that fit settle at the places of their parents; a child of another
length ends all events.  `Performs` tells which matings take place, so that
the failure of a crossover can be traced to one of them.
-/

namespace GrammaticalEvolution

variable {ρ φ : Type} [WordSource ρ]

/-- Two positions of a generation, the chromosomes there, and those of the
children. -/
structure Mating where
  first : Nat
  second : Nat
  parents : Chromosome × Chromosome
  children : Chromosome × Chromosome

namespace Breeder

variable {breeder : Breeder φ} {generation : List (Individual φ)} {source : ρ}

def mate (breeder : Breeder φ) (generation : List (Individual φ)) :
    StateM ρ Mating := do
  let first ← Random.drawIndex generation.length
  let second ← Random.drawIndex generation.length
  let elder := (generation.getD first .blank).chromosome
  let younger := (generation.getD second .blank).chromosome
  let children ← breeder.children elder younger
  return ⟨first, second, (elder, younger), children⟩

omit [WordSource ρ] in
/-- The generation with the children at the places of their parents. -/
def settle (breeder : Breeder φ) (generation : List (Individual φ))
    (mating : Mating) : List (Individual φ) :=
  let elder := Individual.ofChromosome breeder.fitness mating.children.1
  let younger := Individual.ofChromosome breeder.fitness mating.children.2
  (generation.set mating.first elder.value).set mating.second younger.value

/-- An event is a mating; the next ones take place after children that fit. -/
theorem quiet_crossEvents_succ (breeder : Breeder φ) (events : Nat)
    (generation : List (Individual φ)) :
    (Breeding.quiet (breeder.crossEvents (events + 1) generation) :
      StateM ρ _) = (do
      let mating ← breeder.mate generation
      match breeder.misfit? mating.children with
      | some child =>
          pure (generation,
            some (.chromosomeLength breeder.chromosomeLength child.length))
      | none =>
          Breeding.quiet (breeder.crossEvents events
            (breeder.settle generation mating))) := by
  rw [crossEvents]
  simp only [mate, Breeding.quiet_bind, Breeding.quiet_draw, bind_assoc,
    pure_bind]
  congr 1; funext first
  congr 1; funext second
  congr 1; funext pair
  cases breeder.misfit? pair <;> rfl

theorem always_children (breeder : Breeder φ) (first second : Chromosome) :
    Always (breeder.children first second : StateM ρ _) fun children =>
      (∀ cross, breeder.recombination = .custom cross →
        children = cross first second) ∧
      (breeder.recombination = .singlePoint → first.length = second.length →
        children.1.length = second.length ∧
          children.2.length = first.length) := by
  unfold Breeder.children
  cases breeder.recombination with
  | custom cross =>
      apply Always.pure
      refine ⟨?_, nofun⟩
      intro other same
      cases same
      rfl
  | singlePoint =>
      intro source
      refine ⟨nofun, fun _ sameLength => ?_⟩
      exact Chromosome.always_length_singlePoint first second sameLength source

/-- Members of the generation mate. -/
theorem always_mate (breeder : Breeder φ)
    (positive : 0 < generation.length) :
    Always (breeder.mate generation : StateM ρ Mating) fun mating =>
      (∃ elder ∈ generation, ∃ younger ∈ generation,
        mating.parents = (elder.chromosome, younger.chromosome)) ∧
      (∀ cross, breeder.recombination = .custom cross →
        mating.children = cross mating.parents.1 mating.parents.2) ∧
      (breeder.recombination = .singlePoint →
        mating.parents.1.length = mating.parents.2.length →
        mating.children.1.length = mating.parents.2.length ∧
          mating.children.2.length = mating.parents.1.length) := by
  unfold mate
  refine .bind (Random.always_drawIndex positive) fun first inside => ?_
  refine .bind (Random.always_drawIndex positive) fun second otherInside => ?_
  refine .bind (breeder.always_children _ _) fun children born => .pure ?_
  exact ⟨⟨_, getD_mem inside, _, getD_mem otherInside, rfl⟩, born⟩

/-! ### The matings that take place -/

/-- The mating takes place in one of the next crossover events. -/
inductive Performs (breeder : Breeder φ) :
    (events : Nat) → List (Individual φ) → ρ → Mating → Prop where
  | now {events : Nat} {generation : List (Individual φ)} {source rest : ρ}
      {mating : Mating}
      (drawn : (breeder.mate generation).run source = (mating, rest)) :
      Performs breeder (events + 1) generation source mating
  | later {events : Nat} {generation : List (Individual φ)} {source rest : ρ}
      {before mating : Mating}
      (drawn : (breeder.mate generation).run source = (before, rest))
      (fits : breeder.misfit? before.children = none)
      (performed : Performs breeder events (breeder.settle generation before)
        rest mating) :
      Performs breeder (events + 1) generation source mating

theorem performs_succ_iff {events : Nat} {rest : ρ} {before mating : Mating}
    (drawn : (breeder.mate generation).run source = (before, rest)) :
    breeder.Performs (events + 1) generation source mating ↔
      mating = before ∨ breeder.misfit? before.children = none ∧
        breeder.Performs events (breeder.settle generation before) rest
          mating := by
  constructor
  · intro performed
    cases performed with
    | now same =>
        left
        exact (Prod.mk.inj (same.symm.trans drawn)).1
    | later same fits performed =>
        right
        obtain ⟨rfl, rfl⟩ := Prod.mk.inj (same.symm.trans drawn)
        exact ⟨fits, performed⟩
  · rintro (rfl | ⟨fits, performed⟩)
    · exact .now drawn
    · exact .later drawn fits performed

/-- Crossover events fail at a mating with a child of another length, and
nowhere else. -/
theorem run_crossEvents_error_iff (events : Nat) {error : PopulationError} :
    ((Breeding.quiet (breeder.crossEvents events generation)).run
        source).1.2 = some error ↔
      ∃ mating child, breeder.Performs events generation source mating ∧
        breeder.misfit? mating.children = some child ∧
        error = .chromosomeLength breeder.chromosomeLength child.length := by
  induction events generalizing generation source with
  | zero =>
      constructor
      · exact nofun
      · rintro ⟨mating, child, performed, _⟩
        cases performed
  | succ events induction =>
      obtain ⟨⟨mating, rest⟩, drawn⟩ :
          ∃ result, (breeder.mate generation).run source = result := ⟨_, rfl⟩
      rw [quiet_crossEvents_succ, run_bind_of_run drawn]
      simp only [performs_succ_iff drawn]
      cases misfit : breeder.misfit? mating.children with
      | some child =>
          constructor
          · intro failed
            exact ⟨mating, child, .inl rfl, misfit,
              (Option.some.inj failed).symm⟩
          · rintro ⟨other, otherChild, rfl | ⟨fits, _⟩, otherMisfit, rfl⟩
            · rw [misfit] at otherMisfit
              cases otherMisfit
              rfl
            · exact nomatch fits
      | none =>
          rw [induction]
          constructor
          · rintro ⟨other, child, performed, otherMisfit, same⟩
            exact ⟨other, child, .inr ⟨rfl, performed⟩, otherMisfit, same⟩
          · rintro ⟨other, child, rfl | ⟨_, performed⟩, otherMisfit, same⟩
            · exact nomatch misfit.symm.trans otherMisfit
            · exact ⟨other, child, performed, otherMisfit, same⟩

omit [WordSource ρ] in
/-- Children that fit have the length of the population in the places of
their parents. -/
theorem forall_length_settle {mating : Mating}
    (all : ∀ individual ∈ generation,
      individual.chromosome.length = breeder.chromosomeLength)
    (fits : breeder.misfit? mating.children = none) :
    ∀ individual ∈ breeder.settle generation mating,
      individual.chromosome.length = breeder.chromosomeLength := by
  obtain ⟨elderFits, youngerFits⟩ := misfit?_eq_none_iff.mp fits
  exact forall_mem_set (forall_mem_set all elderFits) youngerFits

/-- A custom recombination has been called on the parents; without one all
children fit. -/
theorem Performs.born {events : Nat} {mating : Mating}
    (performed : breeder.Performs events generation source mating)
    (positive : 0 < generation.length)
    (all : ∀ individual ∈ generation,
      individual.chromosome.length = breeder.chromosomeLength) :
    (∀ cross, breeder.recombination = .custom cross →
      mating.children = cross mating.parents.1 mating.parents.2) ∧
    (breeder.recombination = .singlePoint →
      breeder.misfit? mating.children = none) := by
  induction performed with
  | @now events generation source rest mating drawn =>
      have always := breeder.always_mate positive source
      rw [drawn] at always
      obtain ⟨⟨elder, elderIn, younger, youngerIn, parents⟩, custom, lengths⟩ :=
        always
      refine ⟨custom, fun singlePoint => misfit?_eq_none_iff.mpr ?_⟩
      have elderLength := all elder elderIn
      have youngerLength := all younger youngerIn
      rw [parents] at lengths
      obtain ⟨first, second⟩ :=
        lengths singlePoint (elderLength.trans youngerLength.symm)
      exact ⟨first.trans youngerLength, second.trans elderLength⟩
  | @later events generation source rest before mating drawn fits performed
      induction =>
      apply induction
      · simpa [settle] using positive
      · exact forall_length_settle all fits

end Breeder

end GrammaticalEvolution
