import GrammaticalEvolution.Proofs.FloatSigns
import GrammaticalEvolution.Proofs.Population.Memo

/-!
# Breeding without mutation

At rate zero, mutation draws but changes nothing.  Recombination at a single
point moves genes from one individual to another, but never to another locus.
So every gene of every later generation stands where some individual of the
first one has it, whatever is drawn.  Without recombination a generation
consists of individuals of the one before.
-/

namespace GrammaticalEvolution

open FloatModel

variable {ρ φ : Type} [WordSource ρ]

/-! ### Rates of zero -/

section Never

variable {rate : Float}

theorem Chromosome.always_mutate_never (never : (rate == 0.0) = true)
    (genes : Chromosome) :
    Always (genes.mutate rate : StateM ρ (Bool × Chromosome))
      (· = (false, genes)) := by
  have zero := beq_zero_iff.mp never
  induction genes with
  | nil => exact .pure rfl
  | cons gene genes induction =>
      refine .bind always_drawUnit fun chance positive => ?_
      rw [if_neg (not_lt_of_isZero positive zero)]
      refine .bind induction ?_
      rintro _ rfl
      exact .pure rfl

theorem Individual.always_mutate_never (never : (rate == 0.0) = true)
    (fitness : FitnessFunction φ) (individual : Individual φ) :
    Always (Breeding.quiet (individual.mutate fitness rate) : StateM ρ _)
      (· = (false, individual)) := by
  unfold mutate
  rw [Breeding.quiet_bind, Breeding.quiet_draw]
  refine .bind (Chromosome.always_mutate_never never _) ?_
  rintro _ rfl
  exact .pure rfl

namespace Breeder

variable {breeder : Breeder φ}

theorem passesToMutants_never (never : (rate == 0.0) = true)
    (property : Individual φ → Prop) :
    breeder.PassesToMutants ρ rate property := by
  intro individual holds
  refine (individual.always_mutate_never never breeder.fitness).mono ?_
  rintro _ rfl
  exact holds

omit [WordSource ρ] in
theorem eventCount_never (never : (rate == 0.0) = true) (size : Nat) :
    eventCount size rate = 0 := by
  unfold eventCount
  rw [toUInt64_mul_of_isZero (beq_zero_iff.mp never)]
  rfl

theorem always_crossover_never (never : (rate == 0.0) = true)
    (generation : List (Individual φ)) :
    Always (Breeding.quiet (breeder.crossover rate generation) : StateM ρ _)
      (· = (generation, none)) := by
  unfold crossover
  split
  · exact .pure rfl
  · rw [eventCount_never never]
    exact .pure rfl

/-- Without recombination and mutation all that individuals have in common is
kept. -/
theorem keepsAt_never {mutationRate : Float}
    (neverCrossed : (rate == 0.0) = true)
    (neverMutated : (mutationRate == 0.0) = true)
    (property : Individual φ → Prop) :
    breeder.KeepsAt ρ rate mutationRate property where
  crossed generation all := by
    refine (always_crossover_never neverCrossed generation).mono ?_
    rintro _ rfl
    exact ⟨rfl, all⟩
  mutated _ all := (passesToMutants_never neverMutated property).mutateAll all

end Breeder

end Never

/-! ### Loci -/

namespace Chromosome

/-- Before the point a child has the genes of one parent, and from there on
those of the other. -/
theorem getElem?_crossAt {first second : Chromosome} {point : Nat}
    (inFirst : point ≤ first.length) (inSecond : point ≤ second.length)
    (locus : Nat) :
    (crossAt first second point).1[locus]? =
        (if locus < point then first else second)[locus]? ∧
      (crossAt first second point).2[locus]? =
        (if locus < point then second else first)[locus]? := by
  simp only [crossAt, List.getElem?_append, List.length_take,
    Nat.min_eq_left inFirst, Nat.min_eq_left inSecond, List.getElem?_take,
    List.getElem?_drop]
  by_cases before : locus < point
  · simp [before]
  · simp [before, Nat.add_sub_cancel' (Nat.not_lt.mp before)]

/-- At each locus the child has what one of the parents has there. -/
def Mixes (first second child : Chromosome) : Prop :=
  ∀ locus : Nat,
    child[locus]? = first[locus]? ∨ child[locus]? = second[locus]?

/-- At each locus each child has what a parent of its own has there. -/
def Exchanges (first second : Chromosome) (children : Chromosome × Chromosome) :
    Prop :=
  ∀ locus : Nat,
    children.1[locus]? = first[locus]? ∧
        children.2[locus]? = second[locus]? ∨
      children.1[locus]? = second[locus]? ∧
        children.2[locus]? = first[locus]?

theorem always_exchanges_singlePoint (first second : Chromosome) :
    Always (singlePoint first second : StateM ρ (Chromosome × Chromosome))
      (Exchanges first second) := by
  unfold singlePoint
  simp only
  split
  · exact .pure fun _ => .inl ⟨rfl, rfl⟩
  · next nonempty =>
      refine .bind (Random.always_drawIndex (Nat.pos_of_ne_zero nonempty)) ?_
      intro point inside
      refine .pure fun locus => ?_
      obtain ⟨elder, younger⟩ := getElem?_crossAt
        (by omega : point ≤ first.length) (by omega : point ≤ second.length)
        locus
      rw [elder, younger]
      split
      · exact .inl ⟨rfl, rfl⟩
      · exact .inr ⟨rfl, rfl⟩

theorem always_mixes_singlePoint (first second : Chromosome) :
    Always (singlePoint first second : StateM ρ (Chromosome × Chromosome))
      fun children => Mixes first second children.1 ∧
        Mixes first second children.2 := by
  refine (always_exchanges_singlePoint first second).mono ?_
  intro children exchanges
  refine ⟨fun locus => ?_, fun locus => ?_⟩
  · exact (exchanges locus).imp And.left And.left
  · exact ((exchanges locus).imp And.right And.right).symm

end Chromosome

/-- Each gene stands where an individual of the pool has it. -/
def Individual.Inherits (pool : List (Individual φ))
    (individual : Individual φ) : Prop :=
  ∀ (locus : Nat) (gene : Gene), individual.chromosome[locus]? = some gene →
    ∃ ancestor ∈ pool, ancestor.chromosome[locus]? = some gene

omit [WordSource ρ] in
theorem Individual.Inherits.of_mixes {pool : List (Individual φ)}
    {first second child : Individual φ}
    (mixes : Chromosome.Mixes first.chromosome second.chromosome
      child.chromosome)
    (firstInherits : first.Inherits pool)
    (secondInherits : second.Inherits pool) : child.Inherits pool := by
  intro locus gene there
  rcases mixes locus with same | same
  · exact firstInherits locus gene (same.symm.trans there)
  · exact secondInherits locus gene (same.symm.trans there)

theorem Breeder.passesOn_inherits {breeder : Breeder φ}
    (singlePoint : breeder.recombination = .singlePoint)
    (pool : List (Individual φ)) :
    breeder.PassesOn ρ (Individual.Inherits pool) := by
  intro first second firstInherits secondInherits
  rw [Breeder.children, singlePoint]
  refine (Chromosome.always_mixes_singlePoint _ _).mono ?_
  rintro pair ⟨elder, younger⟩ _
  exact ⟨.of_mixes elder firstInherits secondInherits,
    .of_mixes younger firstInherits secondInherits⟩

namespace Population

/-- A step that a call takes does not mutate. -/
def Call.WithoutMutation : Call φ → Prop
  | .advance _ mutationRate => (mutationRate == 0.0) = true
  | _ => True

/-- A shaped population that is recombined at single points, all of whose genes
are inherited from a pool. -/
structure Descends (size length : Nat) (pool : List (Individual φ))
    (population : Population ρ φ) : Prop
    extends Shaped size length population where
  singlePoint : population.breeder.recombination = .singlePoint
  inherited : ∀ individual ∈ population.individuals, individual.Inherits pool

namespace Descends

variable {size length : Nat} {pool : List (Individual φ)}
  {population : Population ρ φ}

theorem perform (descends : Descends size length pool population)
    {call : Call φ} (within : call.Within (· = .singlePoint))
    (unmutated : call.WithoutMutation) :
    Descends size length pool (population.perform call) := by
  have shaped :=
    (Shaped.invariant fun _ => True).perform descends.toShaped call.within_all
  have change := population.changes call
  generalize population.perform call = next at change shaped
  cases change with
  | moved kept => exact ⟨shaped, descends.singlePoint, descends.inherited⟩
  | recombined asked =>
      subst asked
      exact ⟨shaped, within, descends.inherited⟩
  | @installed crossoverRate mutationRate individuals source asked _ bred =>
      subst asked
      have passes : population.breeder.PassesOn ρ (Individual.Inherits pool) :=
        Breeder.passesOn_inherits descends.singlePoint pool
      have keeps : population.breeder.KeepsAt ρ crossoverRate mutationRate
          (Individual.Inherits pool) :=
        ⟨fun _ all => passes.crossover crossoverRate all,
          fun _ all =>
            (Breeder.passesToMutants_never unmutated _).mutateAll all⟩
      obtain ⟨_, _, inherited⟩ :=
        descends.toShaped.bred_at keeps descends.inherited bred
      exact ⟨shaped, descends.singlePoint, inherited⟩

theorem after (descends : Descends size length pool population)
    {calls : List (Call φ)}
    (within : ∀ call ∈ calls, call.Within (· = .singlePoint))
    (unmutated : ∀ call ∈ calls, call.WithoutMutation) :
    Descends size length pool (population.after calls) := by
  induction calls generalizing population with
  | nil => exact descends
  | cons call calls induction =>
      obtain ⟨firstWithin, othersWithin⟩ := List.forall_mem_cons.mp within
      obtain ⟨first, others⟩ := List.forall_mem_cons.mp unmutated
      exact induction (descends.perform firstWithin first) othersWithin others

end Descends

/-- Without mutation, and with recombination at single points only, each gene
of each later generation is the gene that some individual of this one has at
the same locus, whatever the crossover rates, the draws and the calls in
between.  A step without recombination takes all individuals over as they
are. -/
theorem no_gene_invented {fitness : FitnessFunction φ}
    {population : Population ρ φ} (reachable : Reachable fitness population)
    (singlePoint : population.breeder.recombination = .singlePoint) :
    (∀ calls : List (Call φ),
      (∀ call ∈ calls, call.Within (· = .singlePoint)) →
      (∀ call ∈ calls, call.WithoutMutation) →
      ∀ individual ∈ (population.after calls).individuals,
        individual.chromosome.length = population.breeder.chromosomeLength ∧
        ∀ locus < population.breeder.chromosomeLength,
          ∃ gene, individual.chromosome[locus]? = some gene ∧
            ∃ ancestor ∈ population.individuals,
              ancestor.chromosome[locus]? = some gene) ∧
    ∀ crossoverRate mutationRate next,
      (crossoverRate == 0.0) = true → (mutationRate == 0.0) = true →
      (population.advance crossoverRate mutationRate).value =
        (.ok (), next) →
      ∀ individual ∈ next.individuals, individual ∈ population.individuals := by
  obtain ⟨size, length, upholds⟩ := reachable.upholds_fresh
  have shaped := upholds.toShaped
  constructor
  · intro calls within unmutated individual member
    have start : Descends size length population.individuals population :=
      ⟨shaped, singlePoint, fun individual member locus gene there =>
        ⟨individual, member, there⟩⟩
    have later := start.after within unmutated
    have count := later.members individual member
    rw [shaped.length_eq]
    refine ⟨count, fun locus inside => ?_⟩
    rw [← count] at inside
    have there := List.getElem?_eq_getElem inside
    exact ⟨_, there, later.inherited individual member locus _ there⟩
  · intro crossoverRate mutationRate next neverCrossed neverMutated advanced
    have step := population.advances crossoverRate mutationRate
    rw [advanced] at step
    cases step with
    | installed _ _ bred =>
        refine (shaped.bred_at ?_ (fun _ member => member) bred).2.2
        exact Breeder.keepsAt_never neverCrossed neverMutated _

theorem no_gene_invented_quartet :
    (∀ individual ∈
        (quartet.after [.advance 1.0 0.0, .advance 0.5 (-0.0)]).individuals,
      ∃ gene, individual.chromosome[0]? = some gene ∧
        ∃ ancestor ∈ quartet.individuals,
          ancestor.chromosome[0]? = some gene) ∧
    ∀ next, (quartet.advance (-0.0) 0.0).value = (.ok (), next) →
      ∀ individual ∈ next.individuals, individual ∈ quartet.individuals := by
  obtain ⟨inherited, taken⟩ := no_gene_invented (.created quartet_made) rfl
  have zero : (0.0 == (0.0 : Float)) = true := by decide
  have negativeZero : (-0.0 == (0.0 : Float)) = true := by decide
  constructor
  · intro individual member
    refine (inherited _ ?_ ?_ individual member).2 0 Nat.zero_lt_one
    · simp [Call.Within]
    · simp only [List.forall_mem_cons, Call.WithoutMutation]
      exact ⟨zero, negativeZero, List.forall_mem_nil _⟩
  · exact fun next => taken _ _ next negativeZero zero

end Population

end GrammaticalEvolution
