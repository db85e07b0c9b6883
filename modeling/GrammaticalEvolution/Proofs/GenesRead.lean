import GrammaticalEvolution.Proofs.DerivedTrees
import GrammaticalEvolution.Proofs.ParallelDerivations
import GrammaticalEvolution.SemanticMapper
import Mathlib.Data.List.GetD

/-!
# Genes that count

Of a chromosome only the genes that a derivation reads count, and of such a
gene only its remainder by the number of alternatives that it selects from.
The numbers of alternatives are written down on the way of one derivation; any
chromosome whose cyclic word has the same remainders is then derived alike,
reads as many genes and has the same meaning.
-/

namespace GrammaticalEvolution

namespace Chromosome

theorem cyclic_append {genes extra : Chromosome} {time : Nat}
    (inside : time < genes.length) :
    Chromosome.cyclic (genes ++ extra) time = genes.cyclic time := by
  have within : time < (genes ++ extra).length := by
    rw [List.length_append]
    omega
  rw [cyclic_of_lt within, cyclic_of_lt inside,
    List.getElem_append_left inside]

theorem getD_repeated (genes : Chromosome) (times : Nat) {position : Nat}
    (inside : position < times * genes.length) :
    (List.replicate times genes).flatten.getD position 0 =
      genes.cyclic position := by
  induction times generalizing position with
  | zero =>
      rw [Nat.zero_mul] at inside
      exact absurd inside (Nat.not_lt_zero position)
  | succ times induction =>
      rw [List.replicate_succ, List.flatten_cons]
      rcases Nat.lt_or_ge position genes.length with first | later
      · rw [List.getD_append _ _ _ _ first, cyclic, Nat.mod_eq_of_lt first]
      · rw [Nat.succ_mul] at inside
        rw [List.getD_append_right _ _ _ _ later, induction (by omega),
          cyclic, cyclic, ← Nat.mod_eq_sub_mod later]

/-- Repetitions of a chromosome have the same cyclic word. -/
theorem cyclic_repeated (genes : Chromosome) (times time : Nat) :
    Chromosome.cyclic (List.replicate (times + 1) genes).flatten time =
      genes.cyclic time := by
  have length : (List.replicate (times + 1) genes).flatten.length =
      (times + 1) * genes.length := by
    rw [List.length_flatten, List.map_replicate, List.sum_replicate_nat]
  rcases Nat.eq_zero_or_pos genes.length with empty | positive
  · obtain rfl := List.length_eq_zero_iff.mp empty
    simp [cyclic]
  · have inside : time % ((times + 1) * genes.length) <
        (times + 1) * genes.length :=
      Nat.mod_lt _ (Nat.mul_pos (Nat.succ_pos times) positive)
    rw [cyclic, length, getD_repeated genes _ inside, cyclic, cyclic,
      Nat.mod_mod_of_dvd _ (Nat.dvd_mul_left _ _)]

end Chromosome

namespace Grammar

/-- The number of alternatives of the rule that a symbol names. -/
def width (grammar : Grammar) (nonTerminal : Expression) : Nat :=
  match grammar.ruleOf? nonTerminal with
  | some rule => rule.2.length
  | none => 0

/-- Only the remainder of a gene matters to an expansion. -/
theorem expand_eq_of_congruent {grammar : Grammar} {nonTerminal : Expression}
    {first second : Gene}
    (congruent : first.toNat % grammar.width nonTerminal =
      second.toNat % grammar.width nonTerminal) :
    grammar.expand nonTerminal first = grammar.expand nonTerminal second := by
  unfold expand width at *
  cases found : grammar.ruleOf? nonTerminal with
  | none => rfl
  | some rule =>
      rw [found] at congruent
      simp only at congruent ⊢
      rw [congruent]

end Grammar

namespace Derivation

/-- The production that the next gene selects.  How many alternatives it
selects from is written down. -/
def produceNoting (grammar : Grammar) : Produce (Cursor × List Nat) :=
  fun nonTerminal (cursor, widths) =>
    let (production, next) :=
      (produceGuided grammar.symbols nonTerminal).run cursor
    (production, next, widths ++ [grammar.width nonTerminal])

def runNoting (grammar : Grammar) (limits : DerivationLimits)
    (genes : Chromosome) (nonempty : genes ≠ []) :
    Except GrammarError Expression × Cursor × List Nat :=
  run grammar.isNonTerminal (produceNoting grammar) limits
    (.symbol grammar.startName) (.start genes nonempty, [])

/-- The numbers of alternatives that the genes of a chromosome select from, in
the order in which they are read. -/
def widths (grammar : Grammar) (limits : DerivationLimits)
    (genes : Chromosome) (nonempty : genes ≠ []) : List Nat :=
  (runNoting grammar limits genes nonempty).2.2

section Notes

variable {γ : Type} {property : Nat → γ → Prop} {notes : List γ}

/-- Every note has a property, given its time. -/
def Throughout (property : Nat → γ → Prop) (notes : List γ) : Prop :=
  ∀ time note, notes[time]? = some note → property time note

theorem Throughout.of_append {more : List γ}
    (throughout : Throughout property (notes ++ more)) :
    Throughout property notes := by
  intro time note noted
  apply throughout time note
  have inside := (List.getElem?_eq_some_iff.mp noted).1
  rw [List.getElem?_append_left inside]
  exact noted

theorem Throughout.last {note : γ}
    (throughout : Throughout property (notes ++ [note])) :
    property notes.length note :=
  throughout notes.length note List.getElem?_concat_length

theorem throughout_iff :
    Throughout property notes ↔
      ∀ time : Fin notes.length, property time notes[time] := by
  constructor
  · intro throughout time
    exact throughout time _ (List.getElem?_eq_getElem time.isLt)
  · intro each time note noted
    obtain ⟨inside, rfl⟩ := List.getElem?_eq_some_iff.mp noted
    exact each ⟨time, inside⟩

instance [∀ time note, Decidable (property time note)] :
    Decidable (Throughout property notes) :=
  decidable_of_iff _ throughout_iff.symm

end Notes

/-- The genes of two words select the same alternatives, as far as numbers of
alternatives are known. -/
def Congruent (first second : Chromosome) (widths : List Nat) : Prop :=
  Throughout (fun time width =>
    (first.cyclic time).toNat % width = (second.cyclic time).toNat % width)
    widths

instance (first second : Chromosome) (widths : List Nat) :
    Decidable (Congruent first second widths) :=
  inferInstanceAs (Decidable (Throughout _ widths))

section Congruent

variable {grammar : Grammar} {limits : DerivationLimits}
  {first second : Chromosome}

/-- Two cursors have read as many genes as there are numbers written down. -/
def ReadTogether (nonempty : first ≠ []) (other : second ≠ [])
    (noted : Cursor × List Nat) (cursor : Cursor) : Prop :=
  ∃ widths,
    noted = (((Cursor.start first nonempty).readMany widths.length).2,
      widths) ∧
    cursor = ((Cursor.start second other).readMany widths.length).2

theorem run_produceNoting (grammar : Grammar) {genes : Chromosome}
    (nonempty : genes ≠ []) (widths : List Nat) (nonTerminal : Expression) :
    (produceNoting grammar nonTerminal).run
        (((Cursor.start genes nonempty).readMany widths.length).2, widths) =
      (grammar.expand nonTerminal (genes.cyclic widths.length),
        ((Cursor.start genes nonempty).readMany (widths.length + 1)).2,
        widths ++ [grammar.width nonTerminal]) := by
  have read := run_produceGuided grammar.symbols
    (Cursor.ofGenes?_start nonempty) widths.length nonTerminal
  simp only [produceNoting, StateT.run] at read ⊢
  rw [read]
  rfl

/-- As long as the genes select the same alternatives, a derivation that
writes the numbers of alternatives down goes alongside one that does not. -/
theorem producesAlongside_noting (grammar : Grammar) (nonempty : first ≠ [])
    (other : second ≠ []) :
    ProducesAlongside (ReadTogether nonempty other)
      (fun noted => ¬ Congruent first second noted.2)
      (produceNoting grammar) (produceGuided grammar.symbols) where
  stays _ _ differs congruent := differs (Throughout.of_append congruent)
  agrees := by
    rintro nonTerminal _ _ ⟨widths, rfl, rfl⟩
    have noted := run_produceNoting grammar nonempty widths nonTerminal
    have guided := run_produceGuided grammar.symbols
      (Cursor.ofGenes?_start other) widths.length nonTerminal
    have longer : widths.length + 1 =
        (widths ++ [grammar.width nonTerminal]).length := by
      rw [List.length_append, List.length_singleton]
    by_cases congruent : (first.cyclic widths.length).toNat %
        grammar.width nonTerminal =
      (second.cyclic widths.length).toNat % grammar.width nonTerminal
    · have sameProduction := Grammar.expand_eq_of_congruent congruent
      refine .inr ⟨_, _, _, noted, ?_, widths ++ [grammar.width nonTerminal],
        ?_, rfl⟩
      · rw [guided, sameProduction, ← longer]
        rfl
      · rw [← longer]
    · left
      rw [noted]
      intro agree
      exact congruent (Throughout.last agree)

/-- A chromosome that selects the same alternatives is derived to the same end
after as many reads. -/
theorem runNoting_together (nonempty : first ≠ []) (other : second ≠ [])
    (congruent :
      Congruent first second (widths grammar limits first nonempty)) :
    ∃ result,
      runNoting grammar limits first nonempty =
        (result, ((Cursor.start first nonempty).readMany
          (widths grammar limits first nonempty).length).2,
          widths grammar limits first nonempty) ∧
      runGuided grammar.symbols limits (.start second other) =
        (result, ((Cursor.start second other).readMany
          (widths grammar limits first nonempty).length).2) := by
  have atStart : ReadTogether nonempty other
      (Cursor.start first nonempty, []) (Cursor.start second other) :=
    ⟨[], rfl, rfl⟩
  rcases (producesAlongside_noting grammar nonempty other).run
      grammar.isNonTerminal limits (.symbol grammar.startName) atStart with
    differs | ⟨result, _, _, noted, guided, widths, rfl, rfl⟩
  · exact absurd congruent differs
  · have ran : runNoting grammar limits first nonempty =
        (result, ((Cursor.start first nonempty).readMany widths.length).2,
          widths) := noted
    have written :
        Derivation.widths grammar limits first nonempty = widths := by
      rw [Derivation.widths, ran]
    rw [written]
    exact ⟨result, ran, guided⟩

theorem consumed_lastCursor_of_congruent (nonempty : first ≠ [])
    (other : second ≠ [])
    (congruent :
      Congruent first second (widths grammar limits first nonempty)) :
    (lastCursor grammar.symbols limits second other).consumed =
      (widths grammar limits first nonempty).length := by
  obtain ⟨_, _, guided⟩ := runNoting_together nonempty other congruent
  rw [lastCursor, guided, Cursor.consumed_readMany_start]

theorem congruent_refl (genes : Chromosome) (widths : List Nat) :
    Congruent genes genes widths :=
  fun _ _ _ => rfl

/-- A number of alternatives is written down for each gene that is read. -/
theorem length_widths (nonempty : first ≠ []) :
    (widths grammar limits first nonempty).length =
      (lastCursor grammar.symbols limits first nonempty).consumed :=
  (consumed_lastCursor_of_congruent nonempty nonempty
    (congruent_refl first _)).symm

/-- Writing the numbers down changes nothing else. -/
theorem runNoting_eq (grammar : Grammar) (limits : DerivationLimits)
    (nonempty : first ≠ []) :
    runNoting grammar limits first nonempty =
      ((runGuided grammar.symbols limits (.start first nonempty)).1,
        lastCursor grammar.symbols limits first nonempty,
        widths grammar limits first nonempty) := by
  obtain ⟨result, noted, guided⟩ := runNoting_together nonempty nonempty
    (congruent_refl first (widths grammar limits first nonempty))
  rw [noted, lastCursor, guided]

theorem guided_of_congruent (nonempty : first ≠ []) (other : second ≠ [])
    (congruent :
      Congruent first second (widths grammar limits first nonempty)) :
    guided grammar.symbols limits second =
      guided grammar.symbols limits first := by
  obtain ⟨_, noted, guided⟩ := runNoting_together nonempty other congruent
  rw [runNoting_eq] at noted
  obtain ⟨rfl, -⟩ := Prod.mk.inj noted
  rw [guided_start _ _ nonempty, guided_start _ _ other, guided]

end Congruent

/-! ### Chromosomes that are read alike -/

/-- Two chromosomes are derived to the same expression by as many reads, and
have the same fitness and phenotype wherever they get their meaning from the
grammar. -/
structure ReadsAlike (grammar : Grammar) (limits : DerivationLimits)
    (first second : Chromosome) : Prop where
  guided : guided grammar.symbols limits second =
    guided grammar.symbols limits first
  reads : ∀ nonempty other,
    (lastCursor grammar.symbols limits second other).consumed =
      (lastCursor grammar.symbols limits first nonempty).consumed
  fitness : ∀ mapper : SemanticMapper, mapper.symbols = grammar.symbols →
    mapper.limits = limits →
    (mapper.fitness second).value = (mapper.fitness first).value

section ReadsAlike

variable {grammar : Grammar} {limits : DerivationLimits}
  {first second : Chromosome}

theorem Congruent.readsAlike (nonempty : first ≠ []) (other : second ≠ [])
    (congruent :
      Congruent first second (widths grammar limits first nonempty)) :
    ReadsAlike grammar limits first second where
  guided := guided_of_congruent nonempty other congruent
  reads _ _ := by
    rw [consumed_lastCursor_of_congruent nonempty other congruent,
      length_widths nonempty]
  fitness := by
    rintro mapper symbols rfl
    have decoded : mapper.decode second = mapper.decode first := by
      unfold SemanticMapper.decode
      rw [symbols]
      exact guided_of_congruent nonempty other congruent
    rw [SemanticMapper.value_fitness, SemanticMapper.value_fitness,
      SemanticMapper.assess, SemanticMapper.assess, decoded]

/-- Words that agree as far as genes are read are read alike. -/
theorem readsAlike_of_cyclic (nonempty : first ≠ []) (other : second ≠ [])
    (agree : ∀ time,
      time < (lastCursor grammar.symbols limits first nonempty).consumed →
      second.cyclic time = first.cyclic time) :
    ReadsAlike grammar limits first second := by
  apply Congruent.readsAlike nonempty other
  intro time width noted
  have read := (List.getElem?_eq_some_iff.mp noted).1
  rw [length_widths nonempty] at read
  rw [agree time read]

theorem readsAlike_repeated (nonempty : first ≠ []) (times : Nat) :
    ReadsAlike grammar limits first
      (List.replicate (times + 1) first).flatten := by
  have other : (List.replicate (times + 1) first).flatten ≠ [] := by
    rw [List.replicate_succ, List.flatten_cons]
    exact List.append_ne_nil_of_left_ne_nil nonempty _
  apply readsAlike_of_cyclic nonempty other
  intro time _
  exact Chromosome.cyclic_repeated first times time

theorem readsAlike_extended (nonempty : first ≠ []) (extra : Chromosome)
    (unwrapped :
      (lastCursor grammar.symbols limits first nonempty).hasWrapped = false) :
    ReadsAlike grammar limits first (first ++ extra) := by
  have other : first ++ extra ≠ [] :=
    List.append_ne_nil_of_left_ne_nil nonempty extra
  apply readsAlike_of_cyclic nonempty other
  intro time read
  apply Chromosome.cyclic_append
  have genes :
      (lastCursor grammar.symbols limits first nonempty).genes = first := by
    obtain ⟨_, _, ran⟩ := runNoting_together nonempty nonempty
      (congruent_refl first (widths grammar limits first nonempty))
    rw [lastCursor, ran, Cursor.genes_readMany]
    rfl
  simp only [Cursor.hasWrapped, decide_eq_false_iff_not, genes] at unwrapped
  omega

theorem readsAlike_of_unread (nonempty : first ≠ [])
    (length : second.length = first.length)
    (same : ∀ time,
      time < (lastCursor grammar.symbols limits first nonempty).consumed →
      second[time % first.length]? = first[time % first.length]?) :
    ReadsAlike grammar limits first second := by
  have other : second ≠ [] := by
    rintro rfl
    exact nonempty (List.length_eq_zero_iff.mp length.symm)
  apply readsAlike_of_cyclic nonempty other
  intro time read
  rw [Chromosome.cyclic, Chromosome.cyclic, List.getD_eq_getElem?_getD,
    List.getD_eq_getElem?_getD, length, same time read]

end ReadsAlike

/-- Of a chromosome only the choices count that a derivation makes of it.
Beside the derivation stand the numbers of alternatives, one for each gene that
is read.  A chromosome is read alike if its cyclic word is congruent to that of
the first one modulo the numbers of alternatives, at every gene that is read: in
particular if it repeats the first one, extends it without need, or differs from
it in genes that are never read. -/
theorem only_choices_count (grammar : Grammar) (limits : DerivationLimits)
    (first : Chromosome) (nonempty : first ≠ []) :
    runNoting grammar limits first nonempty =
      ((runGuided grammar.symbols limits (.start first nonempty)).1,
        lastCursor grammar.symbols limits first nonempty,
        widths grammar limits first nonempty) ∧
    (widths grammar limits first nonempty).length =
      (lastCursor grammar.symbols limits first nonempty).consumed ∧
    (∀ second, second ≠ [] →
      Congruent first second (widths grammar limits first nonempty) →
      ReadsAlike grammar limits first second) ∧
    (∀ times, ReadsAlike grammar limits first
      (List.replicate (times + 1) first).flatten) ∧
    (∀ extra,
      (lastCursor grammar.symbols limits first nonempty).hasWrapped = false →
      ReadsAlike grammar limits first (first ++ extra)) ∧
    ∀ second, second.length = first.length →
      (∀ time,
        time < (lastCursor grammar.symbols limits first nonempty).consumed →
        second[time % first.length]? = first[time % first.length]?) →
      ReadsAlike grammar limits first second := by
  refine ⟨runNoting_eq grammar limits nonempty, length_widths nonempty,
    ?_, ?_, ?_, ?_⟩
  · intro second other congruent
    exact congruent.readsAlike nonempty other
  · intro times
    exact readsAlike_repeated nonempty times
  · intro extra unwrapped
    exact readsAlike_extended nonempty extra unwrapped
  · intro second length same
    exact readsAlike_of_unread nonempty length same

/-- Ten genes with the same remainders, and one more that is not read. -/
theorem only_choices_count_nestedCalls :
    widths nestedCalls ⟨4, 10⟩ [0, 1, 1, 3, 0, 0, 1, 5, 1, 7] (by decide) =
      [2, 2, 2, 10, 2, 2, 2, 10, 2, 10] ∧
    ReadsAlike nestedCalls ⟨4, 10⟩ [0, 1, 1, 3, 0, 0, 1, 5, 1, 7]
      [2, 7, 3, 13, 4, 6, 5, 25, 9, 17, 99] := by
  refine ⟨by decide +kernel, ?_⟩
  obtain ⟨-, -, alike, -⟩ := only_choices_count nestedCalls ⟨4, 10⟩
    [0, 1, 1, 3, 0, 0, 1, 5, 1, 7] (by decide)
  apply alike _ (by decide)
  decide +kernel

end Derivation

end GrammaticalEvolution
