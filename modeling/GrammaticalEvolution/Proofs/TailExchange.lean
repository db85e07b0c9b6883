import GrammaticalEvolution.Proofs.Population.Inheritance
import Mathlib.Data.Multiset.ZeroCons

/-!
# Exchanged tails

Recombination at a point within both parents exchanges their tails, whatever
their lengths, and a second recombination at the same point brings the parents
back.  A point that is drawn always lies within both parents.
-/

namespace GrammaticalEvolution

namespace Chromosome

/-- Children have exchanged the tails of their parents from a point on. -/
structure ExchangedTails (point : Nat)
    (parents children : Chromosome × Chromosome) : Prop where
  length_first : children.1.length = parents.2.length
  length_second : children.2.length = parents.1.length
  /-- Both children have the genes of both parents at every locus. -/
  together : ∀ locus : Nat,
    ({children.1[locus]?, children.2[locus]?} : Multiset (Option Gene)) =
      {parents.1[locus]?, parents.2[locus]?}
  before : ∀ locus < point, children.1[locus]? = parents.1[locus]? ∧
    children.2[locus]? = parents.2[locus]?
  after : ∀ locus ≥ point, children.1[locus]? = parents.2[locus]? ∧
    children.2[locus]? = parents.1[locus]?

variable {first second : Chromosome} {point : Nat}

theorem crossAt?_eq_some (inFirst : point ≤ first.length)
    (inSecond : point ≤ second.length) :
    crossAt? first second point = some (crossAt first second point) :=
  if_pos (Nat.le_min.mpr ⟨inFirst, inSecond⟩)

theorem exchangedTails_crossAt (inFirst : point ≤ first.length)
    (inSecond : point ≤ second.length) :
    ExchangedTails point (first, second) (crossAt first second point) where
  length_first := (length_crossAt inFirst inSecond).1
  length_second := (length_crossAt inFirst inSecond).2
  together locus := by
    obtain ⟨elder, younger⟩ := getElem?_crossAt inFirst inSecond locus
    rw [elder, younger]
    split
    · rfl
    · exact Multiset.pair_comm _ _
  before locus early := by
    obtain ⟨elder, younger⟩ := getElem?_crossAt inFirst inSecond locus
    rw [if_pos early] at elder younger
    exact ⟨elder, younger⟩
  after locus late := by
    obtain ⟨elder, younger⟩ := getElem?_crossAt inFirst inSecond locus
    rw [if_neg (Nat.not_lt.mpr late)] at elder younger
    exact ⟨elder, younger⟩

/-- Exchanging the tails once more undoes the exchange. -/
theorem crossAt_crossAt (inFirst : point ≤ first.length)
    (inSecond : point ≤ second.length) :
    crossAt (crossAt first second point).1 (crossAt first second point).2
      point = (first, second) := by
  have headFirst : (first.take point).length = point :=
    List.length_take_of_le inFirst
  have headSecond : (second.take point).length = point :=
    List.length_take_of_le inSecond
  simp only [crossAt, List.take_left' headFirst, List.take_left' headSecond,
    List.drop_left' headFirst, List.drop_left' headSecond,
    List.take_append_drop]

/-- Two chromosomes of any lengths exchange their tails at every point within
both, and exchange them back at the same point.  If one of them is empty,
single-point recombination returns them without a draw; else it is the exchange
at the point drawn, which lies within both. -/
theorem tails_exchange {ρ : Type} [WordSource ρ]
    (first second : Chromosome) :
    (∀ point ≤ min first.length second.length, ∃ children,
      crossAt? first second point = some children ∧
      ExchangedTails point (first, second) children ∧
      crossAt? children.1 children.2 point = some (first, second)) ∧
    ∀ source : ρ,
      (min first.length second.length = 0 ∧
        (singlePoint first second).run source = ((first, second), source)) ∨
      ∃ point rest children,
        (Random.drawIndex (min first.length second.length)).run source =
          (point, rest) ∧
        point < min first.length second.length ∧
        crossAt? first second point = some children ∧
        (singlePoint first second).run source = (children, rest) := by
  constructor
  · intro point inside
    obtain ⟨inFirst, inSecond⟩ := Nat.le_min.mp inside
    have exchanged := exchangedTails_crossAt inFirst inSecond
    refine ⟨_, crossAt?_eq_some inFirst inSecond, exchanged, ?_⟩
    rw [crossAt?_eq_some, crossAt_crossAt inFirst inSecond]
    · rw [exchanged.length_first]
      exact inSecond
    · rw [exchanged.length_second]
      exact inFirst
  · intro source
    by_cases empty : min first.length second.length = 0
    · refine .inl ⟨empty, ?_⟩
      simp only [singlePoint, if_pos empty]
      rfl
    · have inside := Random.always_drawIndex (Nat.pos_of_ne_zero empty) source
      refine .inr ⟨_, _, _, rfl, inside, crossAt?_eq_some ?_ ?_, ?_⟩
      · exact (Nat.lt_min.mp inside).1.le
      · exact (Nat.lt_min.mp inside).2.le
      · simp only [singlePoint, if_neg empty]
        rfl

theorem tails_exchange_unequal :
    2 ≤ min ([1, 2, 3, 4, 5] : Chromosome).length [6, 7].length ∧
    (∃ children, children = ([1, 2], [6, 7, 3, 4, 5]) ∧
      crossAt? [1, 2, 3, 4, 5] [6, 7] 2 = some children ∧
      ExchangedTails 2 ([1, 2, 3, 4, 5], [6, 7]) children ∧
      crossAt? children.1 children.2 2 = some ([1, 2, 3, 4, 5], [6, 7])) ∧
    crossAt? [1, 2, 3, 4, 5] [6, 7] 3 = none := by
  obtain ⟨exchange, _⟩ :=
    tails_exchange (ρ := ScriptedWords) [1, 2, 3, 4, 5] [6, 7]
  obtain ⟨children, crossed, exchanged, back⟩ := exchange 2 (by decide)
  cases crossed
  exact ⟨by decide, ⟨_, rfl, rfl, exchanged, back⟩, rfl⟩

end Chromosome

end GrammaticalEvolution
