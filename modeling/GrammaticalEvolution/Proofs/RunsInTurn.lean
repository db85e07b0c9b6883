import GrammaticalEvolution.Proofs.RunCourse

/-!
# Runs one after the other

Runs that follow one another on the same population take the steps that a
single run with all their steps takes.  Once a run has stopped short of its
steps the target is reached, so those after it take none, and the single run
stops there too.
-/

namespace GrammaticalEvolution

variable {ρ φ : Type} [WordSource ρ]

namespace Evolution

variable {settings : EvolutionSettings}

/-! ### Steps of two runs -/

section Steps

variable {start middle last : Population ρ φ}
  {later others : List (Population ρ φ)}

theorem Passes.append (first : Passes settings start later middle)
    (second : Passes settings middle others last) :
    Passes settings start (later ++ others) last := by
  induction first with
  | none => exact second
  | step first _ induction => exact .step first (induction second)

/-- No step starts where the target is reached. -/
theorem Passes.of_reached (passes : Passes settings start later last)
    (target : targetReached settings start = true) :
    later = [] ∧ last = start := by
  cases passes with
  | none => exact ⟨rfl, rfl⟩
  | step first => exact nomatch first.short.symm.trans target

theorem Halts.append {limit more : Nat}
    (first : Halts settings limit start later middle)
    (second : Halts settings more middle others last) :
    Halts settings (limit + more) start (later ++ others) last where
  passes := first.passes.append second.passes
  within := by
    rw [List.length_append]
    exact Nat.add_le_add first.within second.within
  reached := by
    rw [List.length_append]
    intro fewer
    rcases Nat.lt_or_ge later.length limit with stopped | complete
    -- After a first run that stopped short the second one takes no step.
    · have target := first.reached stopped
      rw [(second.passes.of_reached target).2]
      exact target
    · exact second.reached (by omega)

/-- What a run comes to is settled by the steps that lead to its end. -/
theorem Halts.determines {limit step : Nat} {run : Run ρ φ}
    (halts : Halts settings limit start later last)
    (evolved : Evolves settings limit step start run) :
    run.population = last ∧ run.result = .ok (resultOf settings last) := by
  induction evolved generalizing later with
  | exhausted =>
      obtain ⟨passes, within, _⟩ := halts
      cases passes with
      | none => exact ⟨rfl, rfl⟩
      | step => exact absurd within (Nat.not_succ_le_zero _)
  | reached target =>
      obtain ⟨rfl, rfl⟩ := halts.passes.of_reached target
      exact ⟨rfl, rfl⟩
  | @failed remaining _ _ _ _ short advanced =>
      obtain ⟨passes, _, reached⟩ := halts
      cases passes with
      | none =>
          exact nomatch short.symm.trans (reached (Nat.succ_pos remaining))
      | step first => exact nomatch first.advanced.symm.trans advanced
  | @stepped remaining _ _ next _ short advanced _ induction =>
      obtain ⟨passes, within, reached⟩ := halts
      cases passes with
      | none =>
          exact nomatch short.symm.trans (reached (Nat.succ_pos remaining))
      | @step _ other _ later first others =>
          obtain rfl : next = other :=
            (Prod.mk.inj (advanced.symm.trans first.advanced)).2
          exact induction ⟨others, Nat.le_of_succ_le_succ within,
            fun fewer => reached (Nat.succ_lt_succ fewer)⟩

end Steps

/-! ### Runs in turn -/

def withGenerations (evolution : Evolution ρ φ) (generations : Nat) :
    Evolution ρ φ :=
  { evolution with
    settings := { evolution.settings with generations := generations } }

/-- Run an evolution for one observer after the other, each time from the
population that the run before has left. -/
def runsInTurn (evolution : Evolution ρ φ) : List Observer → List (Run ρ φ)
  | [] => []
  | observer :: observers =>
      let run := (evolution.run observer).value
      run ::
        runsInTurn { evolution with population := run.population } observers

/-- Only the start of a run looks at the number of steps in the settings. -/
theorem steps_withGenerations (settings : EvolutionSettings)
    (generations : Nat) (observer : Observer) (remaining step : Nat)
    (population : Population ρ φ) :
    steps { settings with generations := generations } observer remaining step
        population =
      steps settings observer remaining step population := by
  induction remaining generalizing step population with
  | zero => rfl
  | succ remaining induction =>
      unfold steps
      simp only [induction]
      rfl

/-- Runs that succeed take the steps of a run with all their steps. -/
theorem halts_runsInTurn (evolution : Evolution ρ φ)
    {observers : List Observer} {last : Run ρ φ}
    (done : ∀ run ∈ evolution.runsInTurn observers,
      ∃ result, run.result = .ok result)
    (ended : (evolution.runsInTurn observers).getLast? = some last) :
    (∃ later, Halts evolution.settings
      (observers.length * evolution.settings.generations)
      evolution.population later last.population) ∧
    last.result = .ok (resultOf evolution.settings last.population) := by
  induction observers generalizing evolution with
  | nil => exact nomatch ended
  | cons observer observers induction =>
      obtain ⟨⟨result, finished⟩, others⟩ := List.forall_mem_cons.mp done
      have evolved := evolution.evolves_run observer
      obtain ⟨later, halts, _⟩ := evolved.halts finished
      cases observers with
      | nil =>
          obtain rfl : (evolution.run observer).value = last :=
            Option.some.inj ended
          refine ⟨⟨later, ?_⟩, ?_⟩
          · rw [List.length_singleton, Nat.one_mul]
            exact halts
          · rw [← evolved.result_eq finished]
            exact finished
      | cons next observers =>
          obtain ⟨⟨further, halted⟩, outcome⟩ := induction
            { evolution with
              population := (evolution.run observer).value.population }
            others ended
          refine ⟨⟨later ++ further, ?_⟩, outcome⟩
          rw [List.length_cons, Nat.succ_mul, Nat.add_comm]
          exact halts.append halted

/-- Runs in turn that all succeed come to what a single run with the steps of
all of them comes to: the last of them ends with the same population and the
same result. -/
theorem runs_compose (evolution : Evolution ρ φ) {observers : List Observer}
    (repeated : observers ≠ [])
    (done : ∀ run ∈ evolution.runsInTurn observers,
      ∃ result, run.result = .ok result)
    (observer : Observer) :
    let whole := ((evolution.withGenerations
      (observers.length * evolution.settings.generations)).run observer).value
    ∃ last, (evolution.runsInTurn observers).getLast? = some last ∧
      whole.population = last.population ∧ whole.result = last.result := by
  intro whole
  have started : evolution.runsInTurn observers ≠ [] := by
    cases observers with
    | nil => exact absurd rfl repeated
    | cons => exact List.cons_ne_nil _ _
  have ended := List.getLast?_eq_some_getLast started
  obtain ⟨⟨later, halts⟩, outcome⟩ := evolution.halts_runsInTurn done ended
  have evolved : Evolves evolution.settings
      (observers.length * evolution.settings.generations) 0
      evolution.population whole := by
    have same : whole = _ := congrArg Journaled.value
      (steps_withGenerations evolution.settings _ observer _ 0
        evolution.population)
    rw [same]
    exact evolves _ observer _ 0 evolution.population
  obtain ⟨population, result⟩ := halts.determines evolved
  exact ⟨_, ended, population, result.trans outcome.symm⟩

/-- The target is reached in the second run of three, and after the second step
of the single run. -/
theorem climbers_run_in_turn :
    ∃ last,
      ((climbers 1 .singlePoint).runsInTurn
        [.silent, .noting, .silent]).getLast? = some last ∧
      last.population.generation = 2 ∧
      ((climbers 3 .singlePoint).run .silent).value.population =
        last.population ∧
      ((climbers 3 .singlePoint).run .silent).value.result = last.result := by
  have succeed : ((climbers 1 .singlePoint).runsInTurn
      [.silent, .noting, .silent]).all (fun run => run.result.toBool) =
        true := by decide +kernel
  have generation : ((climbers 3 .singlePoint).run
      .silent).value.population.generation = 2 := by decide +kernel
  have done : ∀ run ∈ (climbers 1 .singlePoint).runsInTurn
      [.silent, .noting, .silent], ∃ result, run.result = .ok result := by
    intro run member
    have succeeds := List.all_eq_true.mp succeed run member
    cases outcome : run.result with
    | error error => exact nomatch outcome ▸ succeeds
    | ok result => exact ⟨result, rfl⟩
  obtain ⟨last, ended, population, result⟩ :=
    runs_compose (climbers 1 .singlePoint) (List.cons_ne_nil _ _) done .silent
  exact ⟨last, ended, population ▸ generation, population, result⟩

end Evolution

end GrammaticalEvolution
