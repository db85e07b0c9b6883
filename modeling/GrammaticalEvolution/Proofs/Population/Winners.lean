import GrammaticalEvolution.Proofs.Population.Failure
import Mathlib.Data.Set.Function

/-!
# Winners of tournaments

The second draw of a tournament skips the position of the first, so two draws
stand for two different positions, and each ordered pair of different positions
is drawn in exactly one way.  No rival of a winner is fitter.  So an individual
that all others are fitter than is selected only together with all others.
-/

namespace GrammaticalEvolution

open FloatOrder

/-! ### One tournament -/

namespace Tournament

/-- The winner stands at one of two positions, and the value at the other one
is not greater. -/
def Prevails (fitness : List Float) (pair : Nat × Nat) (winner : Nat) : Prop :=
  ∃ rival, (pair = (winner, rival) ∨ pair = (rival, winner)) ∧
    ¬ fitness.getD winner 0.0 < fitness.getD rival 0.0

theorem positions_different (first draw : Nat) :
    (positions first draw).1 ≠ (positions first draw).2 := by
  unfold positions
  simp only
  split <;> omega

/-- Draws of the same positions are the same draws. -/
theorem positions_injective {first draw otherFirst otherDraw : Nat}
    (same : positions first draw = positions otherFirst otherDraw) :
    first = otherFirst ∧ draw = otherDraw := by
  obtain ⟨firstSame, secondSame⟩ := Prod.mk.inj same
  subst firstSame
  refine ⟨rfl, ?_⟩
  split at secondSame <;> split at secondSame <;> omega

/-- Two different positions are drawn by the first one and by the second one,
which is counted without the first. -/
theorem exists_draws {count first second : Nat} (firstBelow : first < count)
    (secondBelow : second < count) (different : first ≠ second) :
    ∃ draw < count - 1, positions first draw = (first, second) := by
  unfold positions
  by_cases before : second < first
  · refine ⟨second, by omega, ?_⟩
    rw [if_neg (Nat.not_le_of_gt before)]
  · refine ⟨second - 1, by omega, ?_⟩
    rw [if_pos (by omega), Nat.sub_add_cancel (by omega)]

/-- The ordered pairs of different positions are drawn in exactly one way
each. -/
theorem bijOn_positions (count : Nat) :
    Set.BijOn (fun draws : Nat × Nat => positions draws.1 draws.2)
      {draws | draws.1 < count ∧ draws.2 < count - 1}
      {pair | pair.1 < count ∧ pair.2 < count ∧ pair.1 ≠ pair.2} := by
  refine ⟨?_, ?_, ?_⟩
  · rintro ⟨first, draw⟩ ⟨firstBelow, drawBelow⟩
    obtain ⟨left, right⟩ := positions_lt firstBelow drawBelow
    exact ⟨left, right, positions_different first draw⟩
  · rintro ⟨first, draw⟩ _ ⟨otherFirst, otherDraw⟩ _ same
    obtain ⟨firstSame, drawSame⟩ := positions_injective same
    exact Prod.ext firstSame drawSame
  · rintro ⟨first, second⟩ ⟨firstBelow, secondBelow, different⟩
    obtain ⟨draw, drawBelow, drawn⟩ :=
      exists_draws firstBelow secondBelow different
    exact ⟨(first, draw), ⟨firstBelow, drawBelow⟩, drawn⟩

variable {ρ : Type} [WordSource ρ]

theorem always_decide_prevails (fitness : List Float) (pair : Nat × Nat) :
    Always (decide fitness pair.1 pair.2 : StateM ρ Nat)
      (Prevails fitness pair) := by
  unfold decide
  simp only
  split
  · next greater =>
      exact .pure ⟨pair.2, .inl rfl, not_lt_of_lt greater⟩
  · next notGreater =>
      split
      · next less =>
          exact .pure ⟨pair.1, .inr rfl, not_lt_of_lt less⟩
      · next notLess =>
          refine .then_ fun coin => ?_
          split
          · exact .pure ⟨pair.2, .inl rfl, notLess⟩
          · exact .pure ⟨pair.1, .inr rfl, notGreater⟩

/-- Two draws below their bounds decide who meets, and one of the two
prevails. -/
theorem run_winner {fitness : List Float} (pair : 2 ≤ fitness.length)
    (source : ρ) :
    let first := (Random.drawIndex fitness.length).run source
    let draw := (Random.drawIndex (fitness.length - 1)).run first.2
    first.1 < fitness.length ∧ draw.1 < fitness.length - 1 ∧
      Prevails fitness (positions first.1 draw.1)
        ((winner fitness).run source).1 := by
  intro first draw
  refine ⟨Random.always_drawIndex (by omega) source,
    Random.always_drawIndex (by omega) first.2, ?_⟩
  exact always_decide_prevails fitness (positions first.1 draw.1) draw.2

/-- The winner has met a rival at another position. -/
theorem always_winner_prevails {fitness : List Float}
    (pair : 2 ≤ fitness.length) :
    Always (winner fitness : StateM ρ Nat) fun winner =>
      ∃ rival, winner < fitness.length ∧ rival < fitness.length ∧
        winner ≠ rival ∧
        ¬ fitness.getD winner 0.0 < fitness.getD rival 0.0 := by
  intro source
  obtain ⟨firstBelow, drawBelow, rival, met, notFitter⟩ :=
    run_winner pair source
  have below := positions_lt firstBelow drawBelow
  have different := positions_different
    ((Random.drawIndex fitness.length).run source).1
    ((Random.drawIndex (fitness.length - 1)).run
      ((Random.drawIndex fitness.length).run source).2).1
  refine ⟨rival, ?_⟩
  rcases met with met | met <;> rw [met] at below different
  · exact ⟨below.1, below.2, different, notFitter⟩
  · exact ⟨below.2, below.1, different.symm, notFitter⟩

end Tournament

/-! ### Selection -/

variable {ρ φ : Type}

/-- The individual stands somewhere in a list, and all others there are
fitter. -/
def Weakest (individuals : List (Individual φ)) (individual : Individual φ) :
    Prop :=
  ∃ before after, individuals = before ++ individual :: after ∧
    ∀ other ∈ before ++ after, individual.fitness < other.fitness

theorem mem_others {before after : List (Individual φ)}
    {individual : Individual φ} {position : Nat}
    (inside : position < (before ++ individual :: after).length)
    (elsewhere : position ≠ before.length) :
    (before ++ individual :: after).getD position .blank ∈ before ++ after := by
  rw [List.getD_eq_getElem _ _ inside, List.mem_append]
  rcases Nat.lt_or_gt_of_ne elsewhere with inFront | behind
  · left
    rw [List.getElem_append_left inFront]
    exact List.getElem_mem inFront
  · right
    rw [List.getElem_append_right (Nat.le_of_lt behind),
      List.getElem_cons, dif_neg (by omega)]
    exact List.getElem_mem _

/-- One that meets a rival that is not fitter is not the weakest, wherever else
in the list it stands. -/
theorem not_weakest {individuals : List (Individual φ)}
    {position rival : Nat} (inside : position < individuals.length)
    (rivalInside : rival < individuals.length) (different : position ≠ rival)
    (notFitter : ¬ (individuals.getD position .blank).fitness <
      (individuals.getD rival .blank).fitness) :
    ¬ Weakest individuals (individuals.getD position .blank) := by
  rintro ⟨before, after, whole, fitter⟩
  generalize found : individuals.getD position .blank = individual
    at whole fitter notFitter
  subst whole
  by_cases there : position = before.length
  · have elsewhere : rival ≠ before.length := fun same =>
      different (there.trans same.symm)
    exact notFitter (fitter _ (mem_others rivalInside elsewhere))
  · have other := fitter _ (mem_others inside there)
    rw [found] at other
    exact not_lt_of_lt other other

variable [WordSource ρ]

theorem always_winner_not_weakest {individuals : List (Individual φ)}
    (pair : 2 ≤ individuals.length) :
    Always (Tournament.winner (individuals.map Individual.fitness) :
      StateM ρ Nat) fun position =>
        individuals.getD position .blank ∈ individuals ∧
          ¬ Weakest individuals (individuals.getD position .blank) := by
  have enough : 2 ≤ (individuals.map Individual.fitness).length := by
    rwa [List.length_map]
  have value : ∀ position,
      (individuals.map Individual.fitness).getD position 0.0 =
        (individuals.getD position .blank).fitness :=
    fun position => List.getD_map individuals .blank Individual.fitness
  refine (Tournament.always_winner_prevails enough).mono ?_
  rintro position ⟨rival, inside, rivalInside, different, notFitter⟩
  rw [List.length_map] at inside rivalInside
  rw [value, value] at notFitter
  exact ⟨getD_mem inside,
    not_weakest inside rivalInside different notFitter⟩

namespace Population

variable {population : Population ρ φ} {amount : Nat}

theorem select_beyond (beyond : population.individuals.length < amount) :
    population.select amount =
      (.error (.selection amount population.individuals.length),
        population) := by
  unfold select selectFrom
  rw [if_pos beyond]
  rfl

theorem select_all (population : Population ρ φ) :
    population.select population.individuals.length =
      (.ok population.individuals, population) := by
  unfold select selectFrom
  rw [if_neg (Nat.lt_irrefl _), if_pos rfl]
  rfl

theorem select_fewer (fewer : amount < population.individuals.length) :
    ∃ winners, (population.select amount).1 = .ok winners ∧
      winners.length = amount ∧
      ∀ winner ∈ winners, winner ∈ population.individuals ∧
        ¬ Weakest population.individuals winner :=
  always_selectFrom_of_lt fewer always_winner_not_weakest population.source

theorem Shaped.select_error_iff {size length : Nat}
    (shaped : Shaped size length population) {error : PopulationError} :
    (population.select amount).1 = .error error ↔
      population.size < amount ∧
        error = .selection amount population.size := by
  rw [shaped.size_eq, ← shaped.count]
  rcases Nat.lt_trichotomy population.individuals.length amount with
    beyond | rfl | fewer
  · rw [select_beyond beyond]
    constructor
    · intro failed
      exact ⟨beyond, (Except.error.inj failed).symm⟩
    · rintro ⟨_, rfl⟩
      rfl
  · rw [select_all]
    exact ⟨nofun, fun beyond => absurd beyond.1 (Nat.lt_irrefl _)⟩
  · obtain ⟨winners, selected, _⟩ := select_fewer fewer
    rw [selected]
    exact ⟨nofun, fun beyond => absurd beyond.1 (Nat.lt_asymm fewer)⟩

/-- Two draws stand for two different positions in exactly one way, and the one
of them that wins meets a rival that is not fitter.  So, whatever is drawn, a
population fails to select exactly when more individuals are asked for than it
has, gives all of them in order and without drawing when as many are asked
for, and otherwise gives as many copies as asked for, none of them of an
individual that all others are fitter than. -/
theorem selection_spares_weakest {fitness : FitnessFunction φ}
    (reachable : Reachable fitness population) :
    (∀ count, Set.BijOn
      (fun draws : Nat × Nat => Tournament.positions draws.1 draws.2)
      {draws | draws.1 < count ∧ draws.2 < count - 1}
      {pair | pair.1 < count ∧ pair.2 < count ∧ pair.1 ≠ pair.2}) ∧
    (∀ values : List Float, 2 ≤ values.length → ∀ source : ρ,
      let first := (Random.drawIndex values.length).run source
      let draw := (Random.drawIndex (values.length - 1)).run first.2
      first.1 < values.length ∧ draw.1 < values.length - 1 ∧
        Tournament.Prevails values (Tournament.positions first.1 draw.1)
          ((Tournament.winner values).run source).1) ∧
    ∀ (source : ρ) (amount : Nat),
      let drawing := { population with source := source }
      (∀ error, (drawing.select amount).1 = .error error ↔
        population.size < amount ∧
          error = .selection amount population.size) ∧
      (amount = population.size →
        drawing.select amount = (.ok population.individuals, drawing)) ∧
      (amount < population.size →
        ∃ winners, (drawing.select amount).1 = .ok winners ∧
          winners.length = amount ∧
          ∀ winner ∈ winners, winner ∈ population.individuals ∧
            ¬ Weakest population.individuals winner) := by
  obtain ⟨size, length, shaped⟩ := reachable.shaped
  refine ⟨Tournament.bijOn_positions,
    fun values pair source => Tournament.run_winner pair source, ?_⟩
  intro source amount drawing
  have moved : Shaped size length drawing :=
    (Shaped.invariant fun _ => True).moved population source shaped
  have count : population.size = drawing.individuals.length :=
    shaped.size_eq.trans moved.count.symm
  refine ⟨fun error => moved.select_error_iff, ?_, ?_⟩
  · intro all
    rw [all, count]
    exact select_all drawing
  · intro fewer
    rw [count] at fewer
    exact select_fewer fewer

/-- All chromosomes but one are equally fit. -/
def feebleGeneFitness : FitnessFunction Chromosome :=
  fun genes => pure ⟨if genes = [0] then 0.0 else 1.0, []⟩

/-- Four individuals, the first of them less fit than the others. -/
def feebleFirst : Population ScriptedWords Chromosome :=
  ofIndividuals 4 ⟨1, feebleGeneFitness, .singlePoint⟩
    ([[0], [1], [2], [3]].map fun genes =>
      ⟨genes, if genes = [0] then 0.0 else 1.0, none⟩)
    (.ofList [0])

theorem feebleFirst_made :
    (create 4 1 feebleGeneFitness (.ofList [0]) [[0], [1], [2], [3]] :
      Journaled (Except _ (Population ScriptedWords _))).value =
      .ok feebleFirst := rfl

theorem weakest_feebleFirst :
    Weakest feebleFirst.individuals ⟨[0], 0.0, none⟩ := by
  refine ⟨[], [[1], [2], [3]].map fun genes => ⟨genes, 1.0, none⟩, rfl, ?_⟩
  intro other member
  have less : (0.0 : Float) < 1.0 := by decide
  obtain ⟨genes, _, rfl⟩ := List.mem_map.mp member
  exact less

theorem one_prevails {pair : Nat × Nat} {winner : Nat}
    (inside : pair.1 < 2 ∧ pair.2 < 2 ∧ pair.1 ≠ pair.2)
    (prevails : Tournament.Prevails [1.0, 5.0] pair winner) : winner = 1 := by
  obtain ⟨rival, met, notFitter⟩ := prevails
  have less : (1.0 : Float) < 5.0 := by decide
  by_contra other
  obtain ⟨rfl, rfl⟩ : winner = 0 ∧ rival = 1 := by
    rcases met with rfl | rfl <;> dsimp only at inside <;> omega
  exact notFitter less

/-- Of two values the greater one wins, whatever is drawn, and the feeble
individual is not among three that are selected. -/
theorem selection_spares_feebleFirst :
    (∀ source : ScriptedWords,
      ((Tournament.winner [1.0, 5.0]).run source).1 = 1) ∧
    ∃ winners, (feebleFirst.select 3).1 = .ok winners ∧
      winners.length = 3 ∧ ∀ winner ∈ winners, winner.chromosome ≠ [0] := by
  obtain ⟨drawn, tournaments, selections⟩ :=
    selection_spares_weakest (.created feebleFirst_made)
  constructor
  · intro source
    have pair : 2 ≤ [1.0, (5.0 : Float)].length := by decide
    obtain ⟨firstBelow, drawBelow, prevails⟩ := tournaments _ pair source
    have inside := (drawn 2).mapsTo
    exact one_prevails (@inside (_, _) ⟨firstBelow, drawBelow⟩) prevails
  · obtain ⟨winners, selected, count, spared⟩ :=
      (selections (.ofList [0]) 3).2.2 (by decide)
    refine ⟨winners, selected, count, ?_⟩
    intro winner member feeble
    obtain ⟨inside, notWeakest⟩ := spared winner member
    obtain ⟨genes, _, rfl⟩ := List.mem_map.mp inside
    obtain rfl : genes = [0] := feeble
    exact notWeakest weakest_feebleFirst

end Population

end GrammaticalEvolution
