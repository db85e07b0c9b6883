import GrammaticalEvolution.Proofs.Population.Failure
import GrammaticalEvolution.Proofs.Together

/-!
# Only the order of fitness counts

Fitness is asked for in the scan for the best individual and in tournaments,
and each time only whether one value is less than another.  If two fitness
functions order all chromosomes alike, values that are no numbers included,
then two populations bred by them stay in step: they draw the same, keep the
same chromosomes at the same places and fail alike.
-/

namespace GrammaticalEvolution

variable {ρ φ τ : Type}

/-- One function finds a chromosome less fit than another if and only if the
other function does. -/
def SameOrder (first : FitnessFunction φ) (second : FitnessFunction τ) : Prop :=
  ∀ left right, (first left).value.fitness < (first right).value.fitness ↔
    (second left).value.fitness < (second right).value.fitness

/-- Individuals of one chromosome, each assessed by its own function. -/
structure Individual.Alike (first : FitnessFunction φ)
    (second : FitnessFunction τ) (left : Individual φ) (right : Individual τ) :
    Prop where
  genes : left.chromosome = right.chromosome
  leftFresh : left.Fresh first
  rightFresh : right.Fresh second

variable {first : FitnessFunction φ} {second : FitnessFunction τ}

namespace Individual

theorem Alike.assessed (genes : Chromosome) :
    Alike first second (ofChromosome first genes).value
      (ofChromosome second genes).value :=
  ⟨rfl, .assessed first genes, .assessed second genes⟩

theorem Alike.lt_iff (order : SameOrder first second)
    {left leftOther : Individual φ} {right rightOther : Individual τ}
    (alike : Alike first second left right)
    (otherAlike : Alike first second leftOther rightOther) :
    left.fitness < leftOther.fitness ↔ right.fitness < rightOther.fitness := by
  rw [alike.leftFresh.fitness_eq, otherAlike.leftFresh.fitness_eq,
    alike.rightFresh.fitness_eq, otherAlike.rightFresh.fitness_eq,
    alike.genes, otherAlike.genes]
  exact order _ _

end Individual

/-- The same chromosomes at the same positions. -/
abbrev AlikeAll (first : FitnessFunction φ) (second : FitnessFunction τ) :
    List (Individual φ) → List (Individual τ) → Prop :=
  List.Forall₂ (Individual.Alike first second)

section Lists

variable {lefts : List (Individual φ)} {rights : List (Individual τ)}

theorem AlikeAll.map_chromosome (alike : AlikeAll first second lefts rights) :
    lefts.map Individual.chromosome = rights.map Individual.chromosome := by
  induction alike with
  | nil => rfl
  | cons head tail induction =>
      rw [List.map_cons, List.map_cons, head.genes, induction]

theorem AlikeAll.chromosome_getD (alike : AlikeAll first second lefts rights)
    (position : Nat) :
    (lefts.getD position .blank).chromosome =
      (rights.getD position .blank).chromosome := by
  by_cases inside : position < lefts.length
  · exact (forall₂_getD alike inside .blank .blank).genes
  · have leftBeyond : lefts.length ≤ position := Nat.not_lt.mp inside
    have rightBeyond : rights.length ≤ position := by
      rwa [← alike.length_eq]
    rw [List.getD_eq_default _ _ leftBeyond,
      List.getD_eq_default _ _ rightBeyond]
    rfl

end Lists

/-! ### The scan for the best -/

namespace Population

variable {lefts : List (Individual φ)} {rights : List (Individual τ)}

theorem bestPosition_eq (order : SameOrder first second)
    (alike : AlikeAll first second lefts rights) :
    bestPosition lefts = bestPosition rights :=
  bestPosition_of_forall₂ (fun both => both.lt_iff order) alike

end Population

section Steps

variable [WordSource ρ]

/-! ### Tournaments -/

theorem Tournament.decide_eq (order : SameOrder first second)
    {lefts : List (Individual φ)} {rights : List (Individual τ)}
    (alike : AlikeAll first second lefts rights) {one other : Nat}
    (oneInside : one < lefts.length) (otherInside : other < lefts.length) :
    (Tournament.decide (lefts.map Individual.fitness) one other :
      StateM ρ Nat) =
      Tournament.decide (rights.map Individual.fitness) one other := by
  have value : ∀ position, position < lefts.length →
      ∃ left right, Individual.Alike first second left right ∧
        (lefts.map Individual.fitness).getD position 0.0 = left.fitness ∧
        (rights.map Individual.fitness).getD position 0.0 = right.fitness := by
    intro position inside
    have alsoInside : position < rights.length := by rwa [← alike.length_eq]
    refine ⟨_, _, alike.get inside alsoInside, ?_, ?_⟩
    · simp [inside]
    · simp [alsoInside]
  obtain ⟨left, right, both, leftFitness, rightFitness⟩ := value one oneInside
  obtain ⟨leftOther, rightOther, bothOthers, leftOtherFitness,
    rightOtherFitness⟩ := value other otherInside
  unfold Tournament.decide
  rw [leftFitness, rightFitness, leftOtherFitness, rightOtherFitness]
  simp only [both.lt_iff order bothOthers, bothOthers.lt_iff order both]

theorem Tournament.winner_together (order : SameOrder first second)
    {lefts : List (Individual φ)} {rights : List (Individual τ)}
    (alike : AlikeAll first second lefts rights) (pair : 2 ≤ lefts.length) :
    Together (fun left right => left = right ∧ left < lefts.length)
      (Tournament.winner (lefts.map Individual.fitness) : StateM ρ Nat)
      (Tournament.winner (rights.map Individual.fitness)) := by
  have sameLength : rights.length = lefts.length := alike.length_eq.symm
  unfold Tournament.winner
  rw [List.length_map, List.length_map, sameLength]
  apply Together.bind (.of_always (Random.always_drawIndex (by omega)))
  rintro one _ ⟨rfl, oneInside⟩
  apply Together.bind (.of_always (Random.always_drawIndex (by omega)))
  rintro draw _ ⟨rfl, drawInside⟩
  obtain ⟨left, right⟩ := positions_lt oneInside drawInside
  change Together _
    (decide _ (positions one draw).1 (positions one draw).2)
    (decide _ (positions one draw).1 (positions one draw).2)
  rw [← decide_eq order alike left right]
  apply Together.of_always
  refine (always_decide _ _ _).mono ?_
  rintro winner (rfl | rfl)
  · exact left
  · exact right

/-- Both succeed with individuals that are alike, or both fail with the same
error. -/
inductive AlikeResult (first : FitnessFunction φ) (second : FitnessFunction τ) :
    Except PopulationError (List (Individual φ)) →
      Except PopulationError (List (Individual τ)) → Prop where
  | ok {lefts : List (Individual φ)} {rights : List (Individual τ)}
      (alike : AlikeAll first second lefts rights) :
      AlikeResult first second (.ok lefts) (.ok rights)
  | error (error : PopulationError) :
      AlikeResult first second (.error error) (.error error)

theorem selectFrom_together (order : SameOrder first second)
    {lefts : List (Individual φ)} {rights : List (Individual τ)}
    (alike : AlikeAll first second lefts rights) (amount : Nat) :
    Together (AlikeResult first second)
      (selectFrom lefts amount : StateM ρ _) (selectFrom rights amount) := by
  have sameLength : rights.length = lefts.length := alike.length_eq.symm
  unfold selectFrom
  rw [sameLength]
  by_cases beyond : lefts.length < amount
  · rw [if_pos beyond, if_pos beyond]
    exact .pure (.error _)
  by_cases all : amount = lefts.length
  · rw [if_neg beyond, if_pos all, if_neg beyond, if_pos all]
    exact .pure (.ok alike)
  rw [if_neg beyond, if_neg all, if_neg beyond, if_neg all]
  have turns : List.Forall₂ (fun left right => left = right ∧ left < amount)
      (List.range amount) (List.range amount) := by
    apply List.forall₂_same.mpr
    intro turn member
    exact ⟨rfl, List.mem_range.mp member⟩
  refine .bind (.mapM turns ?_) fun left right winners => .pure (.ok winners)
  rintro turn _ ⟨rfl, turnBelow⟩
  apply Together.bind (Tournament.winner_together order alike (by omega))
  rintro position _ ⟨rfl, inside⟩
  exact .pure (forall₂_getD alike inside .blank .blank)

/-! ### Recombination and mutation -/

/-- Breeders that only differ in their fitness functions. -/
structure Breeder.Parallel (first : FitnessFunction φ)
    (second : FitnessFunction τ) (left : Breeder φ) (right : Breeder τ) :
    Prop where
  length_eq : left.chromosomeLength = right.chromosomeLength
  recombination_eq : left.recombination = right.recombination
  leftFitness : left.fitness = first
  rightFitness : right.fitness = second

namespace Breeder.Parallel

variable {left : Breeder φ} {right : Breeder τ}
  {lefts : List (Individual φ)} {rights : List (Individual τ)}

theorem mate_eq (parallel : Breeder.Parallel first second left right)
    (alike : AlikeAll first second lefts rights) :
    (left.mate lefts : StateM ρ Mating) = right.mate rights := by
  have sameLength : rights.length = lefts.length := alike.length_eq.symm
  unfold mate Breeder.children
  rw [sameLength, parallel.recombination_eq]
  simp only [alike.chromosome_getD]

theorem settle_alike (parallel : Breeder.Parallel first second left right)
    (alike : AlikeAll first second lefts rights) (mating : Mating) :
    AlikeAll first second (left.settle lefts mating)
      (right.settle rights mating) := by
  unfold settle
  rw [parallel.leftFitness, parallel.rightFitness]
  apply forall₂_set
  · apply forall₂_set alike
    exact .assessed mating.children.1
  · exact .assessed mating.children.2

theorem crossEvents_together
    (parallel : Breeder.Parallel first second left right)
    (alike : AlikeAll first second lefts rights) (events : Nat) :
    Together (fun leftOutcome rightOutcome =>
        AlikeAll first second leftOutcome.1 rightOutcome.1 ∧
          leftOutcome.2 = rightOutcome.2)
      (Breeding.quiet (left.crossEvents events lefts) : StateM ρ _)
      (Breeding.quiet (right.crossEvents events rights)) := by
  induction events generalizing lefts rights with
  | zero => exact .pure ⟨alike, rfl⟩
  | succ events induction =>
      rw [quiet_crossEvents_succ, quiet_crossEvents_succ,
        parallel.mate_eq alike]
      refine .bind (.refl _) ?_
      rintro mating _ rfl
      have sameMisfit : left.misfit? mating.children =
          right.misfit? mating.children := by
        unfold misfit?
        rw [parallel.length_eq]
      rw [sameMisfit, parallel.length_eq]
      cases right.misfit? mating.children with
      | some child => exact .pure ⟨alike, rfl⟩
      | none => exact induction (parallel.settle_alike alike mating)

theorem crossover_together
    (parallel : Breeder.Parallel first second left right)
    (alike : AlikeAll first second lefts rights) (rate : Float) :
    Together (fun leftOutcome rightOutcome =>
        AlikeAll first second leftOutcome.1 rightOutcome.1 ∧
          leftOutcome.2 = rightOutcome.2)
      (Breeding.quiet (left.crossover rate lefts) : StateM ρ _)
      (Breeding.quiet (right.crossover rate rights)) := by
  have events :
      eventCount rights.length rate = eventCount lefts.length rate := by
    rw [alike.length_eq]
  unfold Breeder.crossover
  rw [events]
  cases alike with
  | nil => exact .pure ⟨.nil, rfl⟩
  | cons head tail =>
      rw [if_neg (List.cons_ne_nil _ _), if_neg (List.cons_ne_nil _ _)]
      exact parallel.crossEvents_together (.cons head tail) _

theorem mutateAll_together
    (parallel : Breeder.Parallel first second left right)
    (alike : AlikeAll first second lefts rights) (rate : Float) :
    Together (AlikeAll first second)
      (Breeding.quiet (left.mutateAll rate lefts) : StateM ρ _)
      (Breeding.quiet (right.mutateAll rate rights)) := by
  unfold mutateAll
  rw [Breeding.quiet_mapM, Breeding.quiet_mapM, parallel.leftFitness,
    parallel.rightFitness]
  refine .mapM alike fun leftParent rightParent parents => ?_
  simp only [Individual.mutate, Breeding.quiet_bind, Breeding.quiet_draw,
    bind_assoc]
  rw [← parents.genes]
  apply Together.bind (.of_always (Chromosome.always_mutate rate _))
  rintro ⟨changed, genes⟩ _ ⟨rfl, _, _, same⟩
  cases changed with
  | true => exact .pure (.assessed genes)
  | false =>
      have leftSame : genes = leftParent.chromosome := same rfl
      have rightSame : genes = rightParent.chromosome :=
        leftSame.trans parents.genes
      refine .pure ⟨rfl, ?_, ?_⟩
      · rw [leftSame]
        exact parents.leftFresh
      · rw [rightSame]
        exact parents.rightFresh

end Breeder.Parallel

/-! ### Populations in step -/

namespace Population

/-- Two populations that only differ in their fitness functions and in how
their individuals are assessed. -/
structure InStep (first : FitnessFunction φ) (second : FitnessFunction τ)
    (left : Population ρ φ) (right : Population ρ τ) : Prop where
  shaped : ∃ size length, Shaped size length left
  size_eq : left.size = right.size
  breeders : Breeder.Parallel first second left.breeder right.breeder
  generation_eq : left.generation = right.generation
  individuals : AlikeAll first second left.individuals right.individuals
  previous : AlikeAll first second left.previous right.previous
  bestIndex_eq : left.bestIndex = right.bestIndex
  source_eq : left.source = right.source

namespace InStep

variable {left : Population ρ φ} {right : Population ρ τ}

omit [WordSource ρ] in
theorem best_alike (inStep : InStep first second left right) :
    Individual.Alike first second left.best right.best := by
  obtain ⟨size, length, shaped⟩ := inStep.shaped
  unfold best
  rw [← inStep.bestIndex_eq]
  exact forall₂_getD inStep.individuals shaped.best_lt .blank .blank

theorem breed_together (order : SameOrder first second)
    (inStep : InStep first second left right)
    (crossoverRate mutationRate : Float) :
    Together (AlikeResult first second)
      (Breeding.quiet (left.breed crossoverRate mutationRate))
      (Breeding.quiet (right.breed crossoverRate mutationRate)) := by
  have best := inStep.best_alike
  unfold breed
  simp only [Breeding.quiet_bind, Breeding.quiet_draw]
  rw [← inStep.size_eq]
  apply Together.bind (selectFrom_together order inStep.individuals _)
  rintro _ _ (⟨winners⟩ | ⟨error⟩)
  · simp only [Breeding.quiet_bind]
    have parents := List.Forall₂.cons best (.cons best winners)
    apply Together.bind
      (inStep.breeders.crossover_together parents crossoverRate)
    rintro ⟨leftCrossed, failure⟩ ⟨rightCrossed, _⟩ ⟨crossed, rfl⟩
    cases failure with
    | some error => exact .pure (.error error)
    | none =>
        simp only [Breeding.quiet_bind]
        apply Together.bind
          (inStep.breeders.mutateAll_together crossed mutationRate)
        intro leftMutants rightMutants mutants
        apply Together.pure
        apply AlikeResult.ok
        exact List.rel_append mutants (.cons best .nil)
  · exact .pure (.error error)

/-- A step ends alike and keeps the populations in step. -/
theorem advance (order : SameOrder first second)
    (inStep : InStep first second left right)
    (crossoverRate mutationRate : Float) :
    (left.advance crossoverRate mutationRate).value.1 =
        (right.advance crossoverRate mutationRate).value.1 ∧
      InStep first second
        (left.advance crossoverRate mutationRate).value.2
        (right.advance crossoverRate mutationRate).value.2 := by
  by_cases crossoverInside : RateInside crossoverRate
  swap
  · rw [advance_of_crossover_outside crossoverInside,
      advance_of_crossover_outside crossoverInside]
    exact ⟨rfl, inStep⟩
  by_cases mutationInside : RateInside mutationRate
  swap
  · rw [advance_of_mutation_outside crossoverInside mutationInside,
      advance_of_mutation_outside crossoverInside mutationInside]
    exact ⟨rfl, inStep⟩
  obtain ⟨size, length, shaped⟩ := inStep.shaped
  have nextShaped : Shaped size length
      (left.advance crossoverRate mutationRate).value.2 :=
    (Shaped.invariant fun _ => True).perform shaped
      (Call.within_all (.advance crossoverRate mutationRate))
  obtain ⟨results, sameRest⟩ := inStep.breed_together order crossoverRate
    mutationRate left.source
  cases leftBred : (Breeding.quiet
      (left.breed crossoverRate mutationRate)).run left.source with
  | mk leftResult rest =>
  cases rightBred : (Breeding.quiet
      (right.breed crossoverRate mutationRate)).run right.source with
  | mk rightResult rightRest =>
  rw [leftBred, inStep.source_eq, rightBred] at results sameRest
  obtain rfl : rest = rightRest := sameRest
  rw [advance_of_inside crossoverInside mutationInside leftBred] at nextShaped ⊢
  rw [advance_of_inside crossoverInside mutationInside rightBred]
  cases results with
  | error error =>
      exact ⟨rfl, ⟨size, length, nextShaped⟩, inStep.size_eq, inStep.breeders,
        inStep.generation_eq, inStep.individuals, inStep.previous,
        inStep.bestIndex_eq, rfl⟩
  | ok alike =>
      exact ⟨rfl, ⟨size, length, nextShaped⟩, inStep.size_eq, inStep.breeders,
        congrArg (· + 1) inStep.generation_eq, alike, inStep.individuals,
        bestPosition_eq order alike, rfl⟩

omit [WordSource ρ] in
theorem recombineBy (inStep : InStep first second left right)
    (recombination : Recombination) :
    InStep first second (left.withRecombination recombination)
      (right.withRecombination recombination) := by
  obtain ⟨size, length, shaped⟩ := inStep.shaped
  obtain ⟨length_eq, _, leftFitness, rightFitness⟩ := inStep.breeders
  have nextShaped : Shaped size length (left.withRecombination recombination) :=
    ⟨shaped.minimum, shaped.size_eq, shaped.length_eq, shaped.count,
      shaped.members, shaped.best_eq⟩
  exact ⟨⟨size, length, nextShaped⟩, inStep.size_eq,
    ⟨length_eq, rfl, leftFitness, rightFitness⟩, inStep.generation_eq,
    inStep.individuals, inStep.previous, inStep.bestIndex_eq,
    inStep.source_eq⟩

end InStep

theorem firstGeneration_together (first : FitnessFunction φ)
    (second : FitnessFunction τ) (size length : Nat)
    (seeds : List Chromosome) :
    Together (AlikeAll first second)
      (Breeding.quiet (firstGeneration size ⟨length, first, .singlePoint⟩
        seeds) : StateM ρ _)
      (Breeding.quiet (firstGeneration size ⟨length, second, .singlePoint⟩
        seeds)) := by
  unfold firstGeneration Individual.random
  simp only [Breeding.quiet_bind, Breeding.quiet_mapM, Breeding.quiet_noting,
    Breeding.quiet_draw, Breeding.quiet_pure]
  have seeded : Together (AlikeAll first second)
      (seeds.mapM fun seed =>
        (pure (Individual.ofChromosome first seed).value : StateM ρ _))
      (seeds.mapM fun seed =>
        pure (Individual.ofChromosome second seed).value) := by
    apply Together.mapM_refl
    intro seed
    exact .pure (.assessed seed)
  have others : Together (AlikeAll first second)
      ((List.range (size - seeds.length)).mapM fun _ => do
        let genes ← (Chromosome.random length : StateM ρ _)
        pure (Individual.ofChromosome first genes).value)
      ((List.range (size - seeds.length)).mapM fun _ => do
        let genes ← Chromosome.random length
        pure (Individual.ofChromosome second genes).value) := by
    apply Together.mapM_refl
    intro _
    apply Together.bind (.refl _)
    rintro genes _ rfl
    exact .pure (.assessed genes)
  apply Together.bind seeded
  intro leftSeeded rightSeeded alikeSeeded
  apply Together.bind others
  intro leftOthers rightOthers alikeOthers
  exact .pure (List.rel_append alikeSeeded alikeOthers)

theorem inStep_of_create (order : SameOrder first second) {size length : Nat}
    {source : ρ} {seeds : List Chromosome} {left : Population ρ φ}
    {right : Population ρ τ}
    (leftMade : (create size length first source seeds).value = .ok left)
    (rightMade : (create size length second source seeds).value = .ok right) :
    InStep first second left right := by
  have shaped := shaped_of_create leftMade
  obtain ⟨_, lefts, leftRest, leftDrawn, rfl⟩ := create_eq_ok leftMade
  obtain ⟨_, rights, rightRest, rightDrawn, rfl⟩ := create_eq_ok rightMade
  obtain ⟨alike, sameRest⟩ :=
    firstGeneration_together first second size length seeds source
  rw [leftDrawn, rightDrawn] at alike sameRest
  exact ⟨⟨size, length, shaped⟩, rfl, ⟨rfl, rfl, rfl, rfl⟩, rfl, alike, .nil,
    bestPosition_eq order alike, sameRest⟩

/-! ### Commands -/

/-- What drives an evolution, whatever its fitness function. -/
inductive Command where
  | recombineBy (recombination : Recombination)
  | advance (crossoverRate mutationRate : Float)

def Command.call : Command → Call φ
  | .recombineBy recombination => .recombineBy recombination
  | .advance crossoverRate mutationRate => .advance crossoverRate mutationRate

/-- The population after a sequence of commands. -/
def obeying (population : Population ρ φ) (commands : List Command) :
    Population ρ φ :=
  population.after (commands.map Command.call)

/-- How a command ends. -/
def result (population : Population ρ φ) :
    Command → Except PopulationError Unit
  | .recombineBy _ => .ok ()
  | .advance crossoverRate mutationRate =>
      (population.advance crossoverRate mutationRate).value.1

/-- How the commands of a sequence end, one after the other. -/
def results : Population ρ φ → List Command → List (Except PopulationError Unit)
  | _, [] => []
  | population, command :: commands =>
      population.result command ::
        (population.perform command.call).results commands

namespace InStep

variable {left : Population ρ φ} {right : Population ρ τ}

theorem perform (order : SameOrder first second)
    (inStep : InStep first second left right) (command : Command) :
    left.result command = right.result command ∧
      InStep first second (left.perform command.call)
        (right.perform command.call) := by
  cases command with
  | recombineBy recombination => exact ⟨rfl, inStep.recombineBy recombination⟩
  | advance crossoverRate mutationRate =>
      exact inStep.advance order crossoverRate mutationRate

theorem obeying (order : SameOrder first second)
    (inStep : InStep first second left right) (commands : List Command) :
    left.results commands = right.results commands ∧
      InStep first second (left.obeying commands) (right.obeying commands) := by
  induction commands generalizing left right with
  | nil => exact ⟨rfl, inStep⟩
  | cons command commands induction =>
      obtain ⟨sameResult, next⟩ := inStep.perform order command
      obtain ⟨sameResults, last⟩ := induction next
      constructor
      · unfold results
        rw [sameResult, sameResults]
      · exact last

end InStep

/-- Two populations made alike with fitness functions that order chromosomes
alike, whatever the values are, evolve through the same chromosomes, best
positions, sources and results under all commands. -/
theorem only_fitness_order_counts (order : SameOrder first second)
    (size length : Nat) (source : ρ) (seeds : List Chromosome) :
    (∀ error,
      (create size length first source seeds).value = .error error ↔
        (create size length second source seeds).value = .error error) ∧
    ∀ left right,
      (create size length first source seeds).value = .ok left →
      (create size length second source seeds).value = .ok right →
      ∀ commands,
        let leftNow := left.obeying commands
        let rightNow := right.obeying commands
        leftNow.individuals.map Individual.chromosome =
          rightNow.individuals.map Individual.chromosome ∧
        leftNow.previous.map Individual.chromosome =
          rightNow.previous.map Individual.chromosome ∧
        leftNow.bestIndex = rightNow.bestIndex ∧
        leftNow.generation = rightNow.generation ∧
        leftNow.source = rightNow.source ∧
        left.results commands = right.results commands := by
  constructor
  · intro error
    unfold create
    cases checkShape size length seeds with
    | error refused => exact ⟨congrArg Except.error ∘ Except.error.inj,
        congrArg Except.error ∘ Except.error.inj⟩
    | ok _ => exact ⟨nofun, nofun⟩
  · intro left right leftMade rightMade commands
    have start : InStep first second left right :=
      inStep_of_create order leftMade rightMade
    obtain ⟨sameResults, now⟩ := start.obeying order commands
    exact ⟨now.individuals.map_chromosome, now.previous.map_chromosome,
      now.bestIndex_eq, now.generation_eq, now.source_eq, sameResults⟩

/-- Other values than those of `singleGeneFitness`, in the same order. -/
def rankFitness : FitnessFunction Unit :=
  fun genes => pure ⟨if genes = [1] then 7.5 else -2.0, []⟩

theorem quartets_in_step :
    SameOrder singleGeneFitness rankFitness ∧
    ∃ right : Population ScriptedWords Unit,
      (create 4 1 rankFitness (.ofList [0]) quartetSeeds).value = .ok right ∧
      ∀ commands,
        (quartet.obeying commands).individuals.map Individual.chromosome =
          (right.obeying commands).individuals.map Individual.chromosome ∧
        quartet.results commands = right.results commands := by
  have values : ∀ left right : Bool,
      (if left then 1.0 else 0.0 : Float) < (if right then 1.0 else 0.0) ↔
        (if left then 7.5 else -2.0 : Float) <
          (if right then 7.5 else -2.0) := by decide
  have order : SameOrder singleGeneFitness rankFitness := by
    intro left right
    have ranked := values (left = [1]) (right = [1])
    simp only [decide_eq_true_eq] at ranked
    exact ranked
  obtain ⟨_, together⟩ := only_fitness_order_counts order 4 1
    (ScriptedWords.ofList [0]) quartetSeeds
  refine ⟨order, _, rfl, fun commands => ?_⟩
  obtain ⟨sameGenes, _, _, _, _, sameResults⟩ :=
    together quartet _ quartet_made rfl commands
  exact ⟨sameGenes, sameResults⟩

end Population

end Steps

end GrammaticalEvolution
