import GrammaticalEvolution.Proofs.Population.Breeding

/-!
# Calls on a population

A population is made once and then called: to advance, to recombine in another
way, or to select, recombine and mutate lists of individuals on behalf of its
caller.  What a single step of evolution can do is said once; everything that
all calls keep follows from three changes: another source, another way to
recombine, and the installation of a bred generation.
-/

namespace GrammaticalEvolution

namespace Population

variable {ρ φ : Type} [WordSource ρ]

/-! ### One step -/

/-- How a step of evolution ends: a rate is rejected and nothing is drawn,
breeding fails, or what was bred is installed. -/
inductive Advances (population : Population ρ φ)
    (crossoverRate mutationRate : Float) :
    Except PopulationError Unit × Population ρ φ → Prop where
  | rejected {error : PopulationError}
      (outside : checkRate .crossover crossoverRate = .error error ∨
        checkRate .crossover crossoverRate = .ok () ∧
          checkRate .mutation mutationRate = .error error) :
      Advances population crossoverRate mutationRate (.error error, population)
  | failed {error : PopulationError} {source : ρ}
      (crossoverInside : checkRate .crossover crossoverRate = .ok ())
      (mutationInside : checkRate .mutation mutationRate = .ok ())
      (bred : (Breeding.quiet
        (population.breed crossoverRate mutationRate)).run population.source =
          (.error error, source)) :
      Advances population crossoverRate mutationRate
        (.error error, { population with source := source })
  | installed {individuals : List (Individual φ)} {source : ρ}
      (crossoverInside : checkRate .crossover crossoverRate = .ok ())
      (mutationInside : checkRate .mutation mutationRate = .ok ())
      (bred : (Breeding.quiet
        (population.breed crossoverRate mutationRate)).run population.source =
          (.ok individuals, source)) :
      Advances population crossoverRate mutationRate
        (.ok (), population.install individuals source)

theorem advances (population : Population ρ φ)
    (crossoverRate mutationRate : Float) :
    population.Advances crossoverRate mutationRate
      (population.advance crossoverRate mutationRate).value := by
  unfold advance
  cases crossoverInside : checkRate .crossover crossoverRate with
  | error error => exact .rejected (.inl crossoverInside)
  | ok _ =>
      cases mutationInside : checkRate .mutation mutationRate with
      | error error => exact .rejected (.inr ⟨crossoverInside, mutationInside⟩)
      | ok _ =>
          simp only [Journaled.value_bind]
          generalize outcome :
            ((population.breed crossoverRate mutationRate).run
              population.source).value = bred
          obtain ⟨result, source⟩ := bred
          cases result with
          | error error => exact .failed crossoverInside mutationInside outcome
          | ok individuals =>
              exact .installed crossoverInside mutationInside outcome

theorem install_of_advance {population next : Population ρ φ}
    {crossoverRate mutationRate : Float}
    (advanced : (population.advance crossoverRate mutationRate).value =
      (.ok (), next)) :
    ∃ individuals source, next = population.install individuals source := by
  have step := population.advances crossoverRate mutationRate
  rw [advanced] at step
  cases step with
  | installed => exact ⟨_, _, rfl⟩

theorem source_of_advance {population next : Population ρ φ}
    {crossoverRate mutationRate : Float} {error : PopulationError}
    (failed : (population.advance crossoverRate mutationRate).value =
      (.error error, next)) :
    ∃ source, next = { population with source := source } := by
  have step := population.advances crossoverRate mutationRate
  rw [failed] at step
  cases step with
  | rejected => exact ⟨population.source, rfl⟩
  | failed => exact ⟨_, rfl⟩

/-! ### Sequences of calls -/

/-- What a caller can ask of a population. -/
inductive Call (φ : Type) where
  | recombineBy (recombination : Recombination)
  | select (amount : Nat)
  | crossover (rate : Float) (individuals : List (Individual φ))
  | mutate (rate : Float) (individuals : List (Individual φ))
  | advance (crossoverRate mutationRate : Float)

/-- The population after a call, whether it succeeds or fails. -/
def perform (population : Population ρ φ) : Call φ → Population ρ φ
  | .recombineBy recombination => population.withRecombination recombination
  | .select amount => (population.select amount).2
  | .crossover rate individuals =>
      (population.crossover rate individuals).value.2
  | .mutate rate individuals => (population.mutate rate individuals).value.2
  | .advance crossoverRate mutationRate =>
      (population.advance crossoverRate mutationRate).value.2

/-- The population after a sequence of calls. -/
def after (population : Population ρ φ) (calls : List (Call φ)) :
    Population ρ φ :=
  calls.foldl perform population

theorem after_cons (population : Population ρ φ) (call : Call φ)
    (calls : List (Call φ)) :
    population.after (call :: calls) =
      (population.perform call).after calls := rfl

/-- The population itself, if a call replaces its generation. -/
def replacedBy (population : Population ρ φ) :
    Call φ → List (Population ρ φ)
  | .advance crossoverRate mutationRate =>
      match (population.advance crossoverRate mutationRate).value.1 with
      | .ok () => [population]
      | .error _ => []
  | _ => []

/-- The populations whose generations a sequence of calls replaces, in order:
one for each step that succeeds. -/
def replaced : Population ρ φ → List (Call φ) → List (Population ρ φ)
  | _, [] => []
  | population, call :: calls =>
      population.replacedBy call ++ (population.perform call).replaced calls

/-- A call does not set a way to recombine that is not allowed. -/
def Call.Within (allowed : Recombination → Prop) : Call φ → Prop
  | .recombineBy recombination => allowed recombination
  | _ => True

theorem Call.within_all (call : Call φ) : call.Within fun _ => True := by
  cases call <;> trivial

/-- How a call changes a population: the source moves on, another way to
recombine is set, or a bred generation is installed. -/
inductive Changes (population : Population ρ φ) (call : Call φ) :
    Population ρ φ → Prop where
  | moved {source : ρ} (kept : population.replacedBy call = []) :
      Changes population call { population with source := source }
  | recombined {recombination : Recombination}
      (asked : call = .recombineBy recombination) :
      Changes population call (population.withRecombination recombination)
  | installed {crossoverRate mutationRate : Float}
      {individuals : List (Individual φ)} {source : ρ}
      (asked : call = .advance crossoverRate mutationRate)
      (replaced : population.replacedBy call = [population])
      (bred : (Breeding.quiet
        (population.breed crossoverRate mutationRate)).run population.source =
          (.ok individuals, source)) :
      Changes population call (population.install individuals source)

theorem changes (population : Population ρ φ) (call : Call φ) :
    population.Changes call (population.perform call) := by
  cases call with
  | recombineBy recombination => exact .recombined rfl
  | select amount => exact .moved rfl
  | crossover rate individuals => exact .moved rfl
  | mutate rate individuals => exact .moved rfl
  | advance crossoverRate mutationRate =>
      have step := population.advances crossoverRate mutationRate
      change population.Changes _
        (population.advance crossoverRate mutationRate).value.2
      generalize outcome :
        (population.advance crossoverRate mutationRate).value = result at step
      have replacedBy : population.replacedBy
          (.advance crossoverRate mutationRate) =
            match result.1 with
            | .ok () => [population]
            | .error _ => [] := by
        rw [← outcome]
        rfl
      cases step with
      | rejected outside => exact .moved replacedBy
      | failed crossoverInside mutationInside bred => exact .moved replacedBy
      | installed crossoverInside mutationInside bred =>
          exact .installed rfl replacedBy bred

/-- What holds through every change, if only allowed ways to recombine are
set. -/
structure Invariant (allowed : Recombination → Prop)
    (holds : Population ρ φ → Prop) : Prop where
  moved : ∀ population source, holds population →
    holds { population with source := source }
  recombined : ∀ population recombination, allowed recombination →
    holds population → holds (population.withRecombination recombination)
  installed : ∀ population crossoverRate mutationRate individuals source,
    holds population →
    (Breeding.quiet (population.breed crossoverRate mutationRate)).run
      population.source = (.ok individuals, source) →
    holds (population.install individuals source)

namespace Invariant

variable {allowed : Recombination → Prop} {holds : Population ρ φ → Prop}

theorem perform (invariant : Invariant allowed holds)
    {population : Population ρ φ} (now : holds population) {call : Call φ}
    (within : call.Within allowed) : holds (population.perform call) := by
  have change := population.changes call
  generalize population.perform call = next at change
  cases change with
  | moved => exact invariant.moved population _ now
  | recombined asked =>
      subst asked
      exact invariant.recombined population _ within now
  | installed asked replaced bred =>
      exact invariant.installed population _ _ _ _ now bred

theorem after (invariant : Invariant allowed holds)
    {population : Population ρ φ} (now : holds population)
    {calls : List (Call φ)} (within : ∀ call ∈ calls, call.Within allowed) :
    holds (population.after calls) := by
  induction calls generalizing population with
  | nil => exact now
  | cons call calls induction =>
      obtain ⟨first, others⟩ := List.forall_mem_cons.mp within
      exact induction (invariant.perform now first) others

end Invariant

/-! ### Populations that can be reached -/

theorem checkShape_eq_ok_iff {size length : Nat} {seeds : List Chromosome} :
    checkShape size length seeds = .ok () ↔
      minPopulation ≤ size ∧ 0 < length ∧ seeds.length ≤ size ∧
        ∀ seed ∈ seeds, seed.length = length := by
  unfold checkShape
  by_cases small : size < minPopulation
  · rw [if_pos small]
    exact ⟨nofun, fun shape => absurd shape.1 (Nat.not_le_of_gt small)⟩
  by_cases empty : length = 0
  · rw [if_neg small, if_pos empty]
    exact ⟨nofun, fun shape => absurd empty (Nat.ne_of_gt shape.2.1)⟩
  by_cases many : size < seeds.length
  · rw [if_neg small, if_neg empty, if_pos many]
    exact ⟨nofun, fun shape => absurd shape.2.2.1 (Nat.not_le_of_gt many)⟩
  rw [if_neg small, if_neg empty, if_neg many]
  cases found : seeds.find? (fun seed => seed.length != length) with
  | some seed =>
      have member := List.mem_of_find?_eq_some found
      have different := List.find?_some found
      simp only [reduceCtorEq, false_iff]
      rintro ⟨_, _, _, same⟩
      simp [same seed member] at different
  | none =>
      simp only [true_iff]
      refine ⟨Nat.not_lt.mp small, Nat.pos_of_ne_zero empty,
        Nat.not_lt.mp many, fun seed member => ?_⟩
      simpa using List.find?_eq_none.mp found seed member

/-- A population that was made has a first generation of the asked shape. -/
theorem create_eq_ok {size length : Nat} {fitness : FitnessFunction φ}
    {source : ρ} {seeds : List Chromosome} {population : Population ρ φ}
    (made : (create size length fitness source seeds).value =
      .ok population) :
    (minPopulation ≤ size ∧ 0 < length ∧ seeds.length ≤ size ∧
      ∀ seed ∈ seeds, seed.length = length) ∧
    ∃ individuals rest,
      (Breeding.quiet (firstGeneration size ⟨length, fitness, .singlePoint⟩
        seeds)).run source = (individuals, rest) ∧
      population = ofIndividuals size ⟨length, fitness, .singlePoint⟩
        individuals rest := by
  unfold create at made
  cases checked : checkShape size length seeds with
  | error error => simp [checked] at made
  | ok _ =>
      simp only [checked, Journaled.value_bind] at made
      exact ⟨checkShape_eq_ok_iff.mp checked, _, _, rfl,
        (Except.ok.inj made).symm⟩

/-- A population made in any way and called any number of times. -/
inductive Reachable (fitness : FitnessFunction φ) : Population ρ φ → Prop where
  | created {size length : Nat} {source : ρ} {seeds : List Chromosome}
      {population : Population ρ φ}
      (made : (create size length fitness source seeds).value =
        .ok population) : Reachable fitness population
  | called {population : Population ρ φ} (call : Call φ)
      (before : Reachable fitness population) :
      Reachable fitness (population.perform call)

namespace Reachable

variable {fitness : FitnessFunction φ} {population : Population ρ φ}

theorem after (reachable : Reachable fitness population)
    (calls : List (Call φ)) : Reachable fitness (population.after calls) := by
  induction calls generalizing population with
  | nil => exact reachable
  | cons call calls induction => exact induction (reachable.called call)

theorem advanced (reachable : Reachable fitness population)
    {crossoverRate mutationRate : Float} {result : Except PopulationError Unit}
    {next : Population ρ φ}
    (advanced : (population.advance crossoverRate mutationRate).value =
      (result, next)) : Reachable fitness next := by
  have called := reachable.called (.advance crossoverRate mutationRate)
  change Reachable fitness
    (population.advance crossoverRate mutationRate).value.2 at called
  rwa [advanced] at called

end Reachable

end Population

end GrammaticalEvolution
