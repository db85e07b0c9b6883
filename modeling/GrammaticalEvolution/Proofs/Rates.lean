import GrammaticalEvolution.Population
import GrammaticalEvolution.Proofs.FloatOrder
import GrammaticalEvolution.Settings

/-!
# Rates from zero to one

Two checks look at a rate.  Settings refuse what lies below zero or above one;
a step of evolution accepts what lies at or above zero and at or below one.
The order of numbers is total, so that the two agree on every number.  They
disagree on what is no number: it lies neither here nor there.
-/

namespace GrammaticalEvolution

open FloatOrder

/-- A number that lies neither below zero nor above one. -/
def RateInside (rate : Float) : Prop :=
  rate.isNaN = false ∧ isOutside rate = false

theorem isOutside_eq_false_iff {rate : Float} :
    isOutside rate = false ↔ ¬ rate < 0.0 ∧ ¬ 1.0 < rate := by
  simp [isOutside]

theorem rateInside_iff {rate : Float} :
    RateInside rate ↔ 0.0 ≤ rate ∧ rate ≤ 1.0 := by
  have zeroNumber : (0.0 : Float).isNaN = false := by decide
  have oneNumber : (1.0 : Float).isNaN = false := by decide
  rw [RateInside, isOutside_eq_false_iff]
  constructor
  · rintro ⟨number, notBelow, notAbove⟩
    exact ⟨le_of_not_lt zeroNumber number notBelow,
      le_of_not_lt number oneNumber notAbove⟩
  · rintro ⟨lower, upper⟩
    have number : rate.isNaN = false := (isNaN_eq_false_of_le lower).2
    exact ⟨number, not_lt_of_le zeroNumber number lower,
      not_lt_of_le number oneNumber upper⟩

theorem checkRate_eq_ok_iff {kind : RateKind} {rate : Float} :
    Population.checkRate kind rate = .ok () ↔ RateInside rate := by
  rw [rateInside_iff, Population.checkRate]
  split
  · next inside => exact ⟨fun _ => inside, fun _ => rfl⟩
  · next outside => exact ⟨nofun, fun inside => absurd inside outside⟩

theorem checkRate_eq_error_iff {kind : RateKind} {rate : Float}
    {error : PopulationError} :
    Population.checkRate kind rate = .error error ↔
      ¬ RateInside rate ∧ error = .rateOutside kind rate := by
  rw [rateInside_iff, Population.checkRate]
  split
  · next inside => exact ⟨nofun, fun outside => absurd inside outside.1⟩
  · next outside =>
      constructor
      · intro same
        exact ⟨outside, (Except.error.inj same).symm⟩
      · rintro ⟨_, rfl⟩
        rfl

theorem EvolutionSettings.validate_eq_ok_iff {settings : EvolutionSettings} :
    settings.validate = .ok () ↔
      minPopulation ≤ settings.populationSize ∧
      0 < settings.chromosomeLength ∧
      isOutside settings.mutationRate = false ∧
      isOutside settings.crossoverRate = false := by
  unfold validate
  by_cases small : settings.populationSize < minPopulation
  · rw [if_pos small]
    exact ⟨nofun, fun shape => absurd shape.1 (Nat.not_le_of_gt small)⟩
  by_cases empty : settings.chromosomeLength = 0
  · rw [if_neg small, if_pos empty]
    exact ⟨nofun, fun shape => absurd empty (Nat.ne_of_gt shape.2.1)⟩
  rw [if_neg small, if_neg empty]
  have sized : minPopulation ≤ settings.populationSize := Nat.not_lt.mp small
  have filled : 0 < settings.chromosomeLength := Nat.pos_of_ne_zero empty
  cases isOutside settings.mutationRate <;>
    cases isOutside settings.crossoverRate <;> simp [sized, filled]

end GrammaticalEvolution
