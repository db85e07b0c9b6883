import GrammaticalEvolution.Proofs.Draws
import Mathlib.Data.List.Forall2
import Mathlib.Data.List.GetD

/-!
# Two computations on one source

Two computations go together if they leave the source in the same state,
whatever state it was in, and their results are related.  What they do in
between may differ, but not how often they draw.
-/

namespace GrammaticalEvolution

variable {ρ α β γ δ : Type}

def Together (relation : α → β → Prop) (left : StateM ρ α)
    (right : StateM ρ β) : Prop :=
  ∀ source, relation (left.run source).1 (right.run source).1 ∧
    (left.run source).2 = (right.run source).2

namespace Together

theorem pure {relation : α → β → Prop} {left : α} {right : β}
    (related : relation left right) :
    Together relation (pure left : StateM ρ α) (pure right) :=
  fun _ => ⟨related, rfl⟩

theorem bind {middle : α → β → Prop} {relation : γ → δ → Prop}
    {left : StateM ρ α} {right : StateM ρ β} {leftNext : α → StateM ρ γ}
    {rightNext : β → StateM ρ δ} (first : Together middle left right)
    (second : ∀ leftValue rightValue, middle leftValue rightValue →
      Together relation (leftNext leftValue) (rightNext rightValue)) :
    Together relation (left >>= leftNext) (right >>= rightNext) := by
  intro source
  obtain ⟨related, sameRest⟩ := first source
  have leftDrawn : left.run source =
      ((left.run source).1, (left.run source).2) := rfl
  have rightDrawn : right.run source =
      ((right.run source).1, (left.run source).2) :=
    Prod.ext rfl sameRest.symm
  rw [run_bind_of_run leftDrawn, run_bind_of_run rightDrawn]
  exact second _ _ related _

theorem refl (action : StateM ρ α) : Together (· = ·) action action :=
  fun _ => ⟨rfl, rfl⟩

theorem of_always {action : StateM ρ α} {property : α → Prop}
    (always : Always action property) :
    Together (fun left right => left = right ∧ property left) action action :=
  fun source => ⟨⟨rfl, always source⟩, rfl⟩

theorem mapM {items : α → β → Prop} {results : γ → δ → Prop}
    {lefts : List α} {rights : List β} {left : α → StateM ρ γ}
    {right : β → StateM ρ δ} (related : List.Forall₂ items lefts rights)
    (each : ∀ leftItem rightItem, items leftItem rightItem →
      Together results (left leftItem) (right rightItem)) :
    Together (List.Forall₂ results) (lefts.mapM left) (rights.mapM right) := by
  induction related with
  | nil =>
      rw [List.mapM_nil, List.mapM_nil]
      exact .pure .nil
  | cons head tail induction =>
      rw [List.mapM_cons, List.mapM_cons]
      apply Together.bind (each _ _ head)
      intro leftHead rightHead headResults
      apply Together.bind induction
      intro leftTail rightTail tailResults
      exact .pure (.cons headResults tailResults)

theorem mapM_refl {items : List α} {results : γ → δ → Prop}
    {left : α → StateM ρ γ} {right : α → StateM ρ δ}
    (each : ∀ item, Together results (left item) (right item)) :
    Together (List.Forall₂ results) (items.mapM left) (items.mapM right) := by
  have related : List.Forall₂ (· = ·) items items :=
    List.forall₂_same.mpr fun _ _ => rfl
  apply Together.mapM related
  rintro item _ rfl
  exact each item

end Together

section Lists

variable {relation : α → β → Prop} {lefts : List α} {rights : List β}

theorem forall₂_getD (related : List.Forall₂ relation lefts rights)
    {position : Nat} (inside : position < lefts.length) (left : α)
    (right : β) :
    relation (lefts.getD position left) (rights.getD position right) := by
  have alsoInside : position < rights.length := by
    rwa [← related.length_eq]
  rw [List.getD_eq_getElem _ _ inside, List.getD_eq_getElem _ _ alsoInside]
  exact related.get inside alsoInside

theorem forall₂_set (related : List.Forall₂ relation lefts rights)
    (position : Nat) {left : α} {right : β} (both : relation left right) :
    List.Forall₂ relation (lefts.set position left)
      (rights.set position right) := by
  induction related generalizing position with
  | nil => exact .nil
  | cons head tail induction =>
      cases position with
      | zero => exact .cons both tail
      | succ position => exact .cons head (induction position)

end Lists

end GrammaticalEvolution
