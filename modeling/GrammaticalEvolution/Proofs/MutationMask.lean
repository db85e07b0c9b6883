import GrammaticalEvolution.Proofs.Population.Memo
import GrammaticalEvolution.Proofs.UnitDraws

/-!
# Mutation by a mask

Mutation decides for each locus whether to put a fresh gene there, and draws
the gene, without a look at what is there already.  So the draws fix a mask,
the same for all chromosomes of one length, and mutation lays it over the genes
of a chromosome.  A chromosome is reported as changed if it is another one with
the mask over it; only then is it assessed again.
-/

namespace GrammaticalEvolution

open FloatModel FloatOrder

variable {ρ φ : Type}

/-- For each locus a fresh gene, or nothing. -/
abbrev Mask := List (Option Gene)

namespace Mask

/-- The genes of a chromosome, except where the mask has fresh ones. -/
def laidOver (mask : Mask) (genes : Chromosome) : Chromosome :=
  List.zipWith (fun fresh gene => fresh.getD gene) mask genes

theorem laidOver_cons (fresh : Option Gene) (mask : Mask) (gene : Gene)
    (genes : Chromosome) :
    laidOver (fresh :: mask) (gene :: genes) =
      fresh.getD gene :: laidOver mask genes := rfl

theorem length_laidOver {mask : Mask} {genes : Chromosome}
    (same : genes.length = mask.length) :
    (mask.laidOver genes).length = genes.length := by
  rw [laidOver, List.length_zipWith, same, Nat.min_self]

theorem getElem?_laidOver_fresh {mask : Mask} {genes : Chromosome}
    (same : genes.length = mask.length) {locus : Nat} {fresh : Gene}
    (there : mask[locus]? = some (some fresh)) :
    (mask.laidOver genes)[locus]? = some fresh := by
  have inside : locus < genes.length := by
    rw [same]
    exact (List.getElem?_eq_some_iff.mp there).1
  rw [laidOver, List.getElem?_zipWith, there, List.getElem?_eq_getElem inside]
  rfl

theorem getElem?_laidOver_kept {mask : Mask} {genes : Chromosome} {locus : Nat}
    (there : mask[locus]? = some none) :
    (mask.laidOver genes)[locus]? = genes[locus]? := by
  rw [laidOver, List.getElem?_zipWith, there]
  cases genes[locus]? <;> rfl

variable [WordSource ρ]

/-- What mutation draws for one locus. -/
def drawLocus (rate : Float) : StateM ρ (Option Gene) := do
  let chance ← Random.drawUnit
  if chance < rate then
    let fresh ← Random.drawGene
    return some fresh
  else return none

/-- What mutation draws for a number of loci. -/
def draw (rate : Float) : (length : Nat) → StateM ρ Mask
  | 0 => return []
  | length + 1 => do
      let fresh ← drawLocus rate
      let mask ← draw rate length
      return fresh :: mask

/-- What is drawn for each locus has a property if it has it for one. -/
theorem always_draw {rate : Float} {property : Option Gene → Prop}
    (each : Always (drawLocus rate : StateM ρ (Option Gene)) property)
    (length : Nat) :
    Always (draw rate length : StateM ρ Mask) fun mask =>
      mask.length = length ∧ ∀ fresh ∈ mask, property fresh := by
  induction length with
  | zero => exact .pure ⟨rfl, List.forall_mem_nil _⟩
  | succ length induction =>
      refine .bind each fun fresh holds => ?_
      refine .bind induction fun mask ⟨count, others⟩ => ?_
      exact .pure ⟨congrArg (· + 1) count,
        List.forall_mem_cons.mpr ⟨holds, others⟩⟩

theorem always_drawLocus_le (rate : Float) :
    Always (drawLocus rate : StateM ρ (Option Gene)) fun fresh =>
      ∀ gene, fresh = some gene → gene ≤ Random.maxGene := by
  refine .then_ fun chance => ?_
  split
  · refine .bind Random.always_drawGene fun fresh small => .pure ?_
    rintro gene ⟨⟩
    exact small
  · exact .pure nofun

theorem always_drawLocus_never {rate : Float} (never : (rate == 0.0) = true) :
    Always (drawLocus rate : StateM ρ (Option Gene)) (· = none) := by
  refine .bind always_drawUnit fun chance positive => ?_
  rw [if_neg (not_lt_of_isZero positive (beq_zero_iff.mp never))]
  exact .pure rfl

theorem always_drawLocus_always {rate : Float} (certain : 1.0 ≤ rate) :
    Always (drawLocus rate : StateM ρ (Option Gene)) (· ≠ none) := by
  refine .bind always_drawUnit_lt_one fun chance below => ?_
  rw [if_pos (lt_of_lt_of_le below certain)]
  exact .then_ fun fresh => .pure (Option.some_ne_none fresh)

end Mask

/-! ### Mutation -/

section Mutation

variable [WordSource ρ]

/-- One locus is changed or another one is. -/
theorem Mask.laidOver_cons_bne (fresh : Option Gene) (mask : Mask) (gene : Gene)
    (genes : Chromosome) :
    (laidOver (fresh :: mask) (gene :: genes) != gene :: genes) =
      (fresh.getD gene != gene || laidOver mask genes != genes) := by
  rw [laidOver_cons, bne, List.cons_beq_cons, Bool.not_and]
  rfl

/-- A chromosome is mutated by a mask that is drawn for its length. -/
theorem Chromosome.mutate_eq (rate : Float) (genes : Chromosome) :
    (genes.mutate rate : StateM ρ (Bool × Chromosome)) = (do
      let mask ← Mask.draw rate genes.length
      return (mask.laidOver genes != genes, mask.laidOver genes)) := by
  induction genes with
  | nil => rfl
  | cons gene genes induction =>
      rw [mutate, List.length_cons, Mask.draw, Mask.drawLocus, induction]
      simp only [bind_assoc]
      congr 1; funext chance
      split
      · simp only [bind_assoc, pure_bind, Mask.laidOver_cons_bne]
        rfl
      · have same : (gene != gene) = false := bne_self_eq_false gene
        simp only [pure_bind, Mask.laidOver_cons_bne,
          Option.getD_none, same, Bool.false_or]
        rfl

omit [WordSource ρ] in
theorem Individual.journal_ofChromosome (fitness : FitnessFunction φ)
    (genes : Chromosome) :
    (ofChromosome fitness genes).journal = (fitness genes).journal := by
  rw [ofChromosome, Journaled.journal_bind, Journaled.journal_pure,
    Array.append_empty]

section Drawn

variable {rate : Float} {source rest : ρ} {mask : Mask}

theorem Chromosome.run_mutate {genes : Chromosome}
    (drawn : (Mask.draw rate genes.length).run source = (mask, rest)) :
    (genes.mutate rate).run source =
      ((mask.laidOver genes != genes, mask.laidOver genes), rest) := by
  rw [mutate_eq, run_bind_of_run drawn]
  rfl

/-- An individual is assessed with the mask over its genes, or kept if these
are its own. -/
theorem Individual.run_mutate (fitness : FitnessFunction φ)
    {individual : Individual φ}
    (drawn : (Mask.draw rate individual.chromosome.length).run source =
      (mask, rest)) :
    (individual.mutate fitness rate).run source =
      if mask.laidOver individual.chromosome = individual.chromosome then
        return ((false, individual), rest)
      else do
        let mutant ←
          ofChromosome fitness (mask.laidOver individual.chromosome)
        return ((true, mutant), rest) := by
  unfold mutate
  rw [StateT.run_bind]
  change (pure ((individual.chromosome.mutate rate).run source) >>= _) = _
  rw [Chromosome.run_mutate drawn, pure_bind]
  by_cases same : mask.laidOver individual.chromosome = individual.chromosome
  · have unchanged :
        (mask.laidOver individual.chromosome != individual.chromosome) =
          false :=
      bne_eq_false_iff_eq.mpr same
    rw [unchanged, if_pos same, same]
    rfl
  · have changed :
        (mask.laidOver individual.chromosome != individual.chromosome) = true :=
      bne_iff_ne.mpr same
    rw [changed, if_neg same]
    rfl

end Drawn

/-- For each length, rate and state of the source there are a mask and a state
that mutation ends in, whatever the genes are: each locus that the mask has a
fresh gene for gets it, all others keep theirs, and a chromosome is reported as
changed exactly if it is another one then.  At rate zero nothing is put
anywhere, and from rate one on everywhere.  An individual is assessed again, so
that what one call of the fitness function notes is noted, exactly if its
chromosome has changed, and it is fresh after mutation if it was before. -/
theorem mutation_by_mask (length : Nat) (rate : Float) (source : ρ) :
    ∃ (mask : Mask) (rest : ρ),
      mask.length = length ∧
      (∀ gene, some gene ∈ mask → gene ≤ 255) ∧
      ((rate == 0.0) = true → ∀ fresh ∈ mask, fresh = none) ∧
      (1.0 ≤ rate → ∀ fresh ∈ mask, fresh ≠ none) ∧
      (∀ genes : Chromosome, genes.length = length →
        (genes.mutate rate).run source =
          ((mask.laidOver genes != genes, mask.laidOver genes), rest) ∧
        (mask.laidOver genes).length = length ∧
        ∀ locus : Nat,
          (∀ fresh, mask[locus]? = some (some fresh) →
            (mask.laidOver genes)[locus]? = some fresh) ∧
          (mask[locus]? = some none →
            (mask.laidOver genes)[locus]? = genes[locus]?)) ∧
      ∀ {φ : Type} (fitness : FitnessFunction φ) (individual : Individual φ),
        individual.chromosome.length = length →
        let final := mask.laidOver individual.chromosome
        let outcome := (individual.mutate fitness rate).run source
        outcome.value.1.1 = (final != individual.chromosome) ∧
        outcome.value.1.2.chromosome = final ∧
        outcome.value.2 = rest ∧
        outcome.journal = (if final = individual.chromosome then #[]
          else (fitness final).journal) ∧
        (individual.Fresh fitness → outcome.value.1.2.Fresh fitness) := by
  obtain ⟨⟨mask, rest⟩, drawn⟩ :
      ∃ result, (Mask.draw rate length).run source = result := ⟨_, rfl⟩
  have found : ∀ {property : Option Gene → Prop},
      Always (Mask.drawLocus rate : StateM ρ (Option Gene)) property →
      mask.length = length ∧ ∀ fresh ∈ mask, property fresh := by
    intro property each
    have always := Mask.always_draw each length source
    rwa [drawn] at always
  obtain ⟨count, small⟩ := found (Mask.always_drawLocus_le rate)
  refine ⟨mask, rest, count, fun gene member => small _ member gene rfl,
    fun never => (found (Mask.always_drawLocus_never never)).2,
    fun certain => (found (Mask.always_drawLocus_always certain)).2, ?_, ?_⟩
  · intro genes same
    have fits : genes.length = mask.length := same.trans count.symm
    subst same
    refine ⟨Chromosome.run_mutate drawn, Mask.length_laidOver fits, ?_⟩
    intro locus
    exact ⟨fun fresh there => Mask.getElem?_laidOver_fresh fits there,
      Mask.getElem?_laidOver_kept⟩
  · intro φ fitness individual same final outcome
    subst same
    have mutated : outcome = _ := Individual.run_mutate fitness drawn
    by_cases kept : final = individual.chromosome
    · rw [mutated, if_pos kept, if_pos kept, kept]
      exact ⟨(bne_self_eq_false _).symm, rfl, rfl, rfl, id⟩
    · have changed : (final != individual.chromosome) = true :=
        bne_iff_ne.mpr kept
      rw [mutated, if_neg kept, if_neg kept, changed]
      refine ⟨rfl, rfl, rfl, ?_, fun _ => .assessed fitness final⟩
      rw [Journaled.journal_bind, Individual.journal_ofChromosome,
        Journaled.journal_pure, Array.append_empty]

/-- At rate one all chromosomes of one gene become the same one, with an
individual assessed for it; at rate zero they stay what they are. -/
theorem mutation_at_ends :
    let source : ScriptedWords := .ofList [0x80000009, 0x0b000000]
    (∃ fresh ≤ 255, ∀ gene : Gene,
      ((Chromosome.mutate 1.0 [gene]).run source).1.2 = [fresh]) ∧
    (∀ gene : Gene,
      ((Chromosome.mutate 0.0 [gene]).run source).1 = (false, [gene])) ∧
    ∀ {φ : Type} (fitness : FitnessFunction φ) (gene : Gene),
      (((Individual.ofChromosome fitness [gene]).value.mutate fitness 1.0).run
        source).value.1.2.Fresh fitness := by
  intro source
  refine ⟨?_, ?_, ?_⟩
  · obtain ⟨mask, rest, count, small, _, everywhere, mutated, _⟩ :=
      mutation_by_mask 1 1.0 source
    obtain ⟨entry, rfl⟩ := List.length_eq_one_iff.mp count
    have filled := everywhere (by decide) entry List.mem_cons_self
    obtain ⟨fresh, rfl⟩ := Option.ne_none_iff_exists'.mp filled
    refine ⟨fresh, small fresh List.mem_cons_self, fun gene => ?_⟩
    rw [(mutated [gene] rfl).1]
    rfl
  · obtain ⟨mask, rest, count, _, nowhere, _, mutated, _⟩ :=
      mutation_by_mask 1 0.0 source
    obtain ⟨entry, rfl⟩ := List.length_eq_one_iff.mp count
    obtain rfl := nowhere (by decide) entry List.mem_cons_self
    intro gene
    rw [(mutated [gene] rfl).1]
    exact Prod.ext (bne_self_eq_false [gene]) rfl
  · obtain ⟨_, _, _, _, _, _, _, individuals⟩ := mutation_by_mask 1 1.0 source
    intro φ fitness gene
    exact (individuals fitness _ rfl).2.2.2.2 (.assessed fitness [gene])

end Mutation

end GrammaticalEvolution
