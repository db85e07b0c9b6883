import GrammaticalEvolution.Random.Source

/-!
# Binary tournaments

A tournament compares two different positions of a list of fitness values and
keeps the fitter one.  Values that do not compare are decided by a coin.
-/

namespace GrammaticalEvolution.Tournament

/-- The two positions that two draws stand for: the second draw skips the
position of the first. -/
def positions (first draw : Nat) : Nat × Nat :=
  (first, if first ≤ draw then draw + 1 else draw)

variable {ρ : Type} [WordSource ρ]

/-- The position of the fitter of two values. -/
def decide (fitness : List Float) (first second : Nat) : StateM ρ Nat := do
  let left := fitness.getD first 0.0
  let right := fitness.getD second 0.0
  if right < left then return first
  else if left < right then return second
  else if ← Random.drawCoin then return first
  else return second

/-- The winner's position among at least two fitness values. -/
def winner (fitness : List Float) : StateM ρ Nat := do
  let first ← Random.drawIndex fitness.length
  let draw ← Random.drawIndex (fitness.length - 1)
  let (first, second) := positions first draw
  decide fitness first second

/-- The winner's position, or nothing when there are not two values to
compare.  A single value is still drawn. -/
def winner? (fitness : List Float) : StateM ρ (Option Nat) := do
  if 2 ≤ fitness.length then
    let position ← winner fitness
    return some position
  else
    let _ ← Random.drawIndex fitness.length
    return none

end GrammaticalEvolution.Tournament
