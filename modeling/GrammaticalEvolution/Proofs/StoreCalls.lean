import GrammaticalEvolution.Proofs.GatheredSettings

/-!
# Calls on a store of settings

Updates, loads and saves in any order keep the settings of a store valid, and a
call that fails leaves them as they were.  What a successful load puts in their
place is gathered from the environment, the file and the standard settings,
never from the settings it replaces.
-/

namespace GrammaticalEvolution

/-- A call on a store of settings. -/
inductive StoreCall where
  | update (change : Settings → Settings)
  | load (name : String) (text? : Option String) (environment : Environment)
      (order : LayerOrder)
  | save (writable : Bool)

/-- Why a call fails. -/
inductive StoreError where
  | update (error : SettingsError)
  | load (error : LoadError)
  | save (error : SaveError)

namespace StoreCall

/-- The answer to a call and the store after it. -/
def perform (store : SettingsStore) :
    StoreCall → Except StoreError Unit × SettingsStore
  | .update change =>
      let (result, next) := store.update change
      (result.mapError .update, next)
  | .load name text? environment order =>
      let (result, next) := (store.load name text? environment order).value
      (result.mapError .load, next)
  | .save writable =>
      (((store.save writable).map fun _ => ()).mapError .save, store)

/-- Why a call on a store cannot succeed. -/
def Refused (store : SettingsStore) : StoreCall → Prop
  | .update change => (change store.settings).validate ≠ .ok ()
  | .load _ text? environment order => ¬ ∃ file settings,
      Settings.entriesOf? text? = some file ∧
      Settings.ofSetting? (Settings.layered order file environment) =
        some settings ∧
      settings.validate = .ok ()
  | .save writable => store.settings.write? = none ∨ writable = false

/-- What a call that succeeds makes of a store.  A load makes the same of every
store, with all values given by the environment and the file, as long as the
environment overrides the file key by key. -/
def Makes (store next : SettingsStore) : StoreCall → Prop
  | .update change => next.settings = change store.settings
  | .load name text? environment order =>
      (∀ other : SettingsStore,
        (other.load name text? environment order).value = (.ok (), next)) ∧
      ∃ file, Settings.entriesOf? text? = some file ∧
        (Settings.OverridesByKey order file environment →
          next.settings.Gathered order file environment)
  | .save _ => next = store

/-- A call is refused and leaves the store as it is, or it succeeds and leaves a
valid one. -/
theorem perform_cases (call : StoreCall) {store : SettingsStore}
    (valid : store.settings.validate = .ok ()) :
    (∃ error, call.perform store = (.error error, store) ∧
      call.Refused store) ∨
    ∃ next, call.perform store = (.ok (), next) ∧
      next.settings.validate = .ok () ∧ call.Makes store next := by
  cases call with
  | update change =>
      simp only [perform, SettingsStore.update]
      cases accepted : (change store.settings).validate with
      | ok => exact .inr ⟨_, rfl, accepted, rfl⟩
      | error error =>
          refine .inl ⟨_, rfl, fun valid => ?_⟩
          rw [accepted] at valid
          cases valid
  | load name text? environment order =>
      cases loaded : Settings.load text? environment order with
      | ok settings =>
          obtain ⟨file, found, read, accepted⟩ :=
            Settings.load_eq_ok_iff.mp loaded
          have installs : ∀ other : SettingsStore,
              (other.load name text? environment order).value =
                (.ok (), ⟨settings⟩) := by
            intro other
            rw [SettingsStore.load, loaded]
            rfl
          refine .inr ⟨⟨settings⟩, ?_, accepted, installs, file, found,
            fun overrides => Settings.gathered_of_ofSetting? overrides read⟩
          rw [perform, installs]
          rfl
      | error error =>
          refine .inl ⟨.load error, ?_, ?_⟩
          · rw [perform, SettingsStore.load, loaded]
            rfl
          · rintro ⟨file, settings, found⟩
            rw [Settings.load_eq_ok_iff.mpr ⟨file, found⟩] at loaded
            cases loaded
  | save writable =>
      simp only [perform, SettingsStore.save]
      cases written : store.settings.write? with
      | none => exact .inl ⟨_, rfl, .inl written⟩
      | some text =>
          cases writable with
          | true => exact .inr ⟨store, rfl, valid, rfl⟩
          | false => exact .inl ⟨_, rfl, .inr rfl⟩

end StoreCall

namespace SettingsStore

/-- The store after calls in order. -/
def after (store : SettingsStore) : List StoreCall → SettingsStore
  | [] => store
  | call :: calls => (call.perform store).2.after calls

theorem standard_valid : standard.settings.validate = .ok () := by
  decide

theorem after_valid (calls : List StoreCall) {store : SettingsStore}
    (valid : store.settings.validate = .ok ()) :
    (store.after calls).settings.validate = .ok () := by
  induction calls generalizing store with
  | nil => exact valid
  | cons call calls induction =>
      apply induction
      rcases call.perform_cases valid with
        ⟨_, failed, _⟩ | ⟨next, done, kept, _⟩
      · rw [failed]
        exact valid
      · rw [done]
        exact kept

/-- After any calls the settings are valid, and the next call is refused and
leaves them as they are, or it makes of them what it is meant to: an update the
changed settings, a save the same ones, and a load settings that do not depend
on those before, gathered from environment and file if the one overrides the
other key by key. -/
theorem calls_all_or_nothing (calls : List StoreCall) (call : StoreCall) :
    (standard.after calls).settings.validate = .ok () ∧
    ((∃ error, call.perform (standard.after calls) =
        (.error error, standard.after calls) ∧
      call.Refused (standard.after calls)) ∨
    ∃ next, call.perform (standard.after calls) = (.ok (), next) ∧
      call.Makes (standard.after calls) next) := by
  have valid := after_valid calls standard_valid
  refine ⟨valid, (call.perform_cases valid).imp_right ?_⟩
  rintro ⟨next, done, _, makes⟩
  exact ⟨next, done, makes⟩

/-- Fields of both sections in a file. -/
def fileText : String :=
  "[grammar]\nmax_expansions = 500\n\n" ++
    "[evolution]\npopulation_size = 24\nseed = 7\n"

/-- One field in the environment. -/
def seedVariable : Environment :=
  [("PATH", "/bin"), ("GACORE_EVOLUTION__SEED", "9")]

/-- The entries of both sources from the last to the first. -/
def reversed : LayerOrder :=
  ⟨⟨List.reverse, List.reverse_perm⟩, ⟨List.reverse, List.reverse_perm⟩⟩

/-- What is checked of the entries of a text holds of them. -/
theorem holds_of_entriesOf? {text? : Option String} {file : Entries}
    (found : Settings.entriesOf? text? = some file)
    (property : Entries → Prop) [DecidablePred property]
    (holds : (Settings.entriesOf? text?).any (property ·) = true) :
    property file := by
  rw [found] at holds
  exact of_decide_eq_true holds

theorem calls_all_or_nothing_seedVariable :
    let calls : List StoreCall :=
      [.update fun settings => { settings with limits := ⟨32, 100⟩ },
        .update fun settings => { settings with limits := ⟨0, 100⟩ },
        .save false]
    let load : StoreCall :=
      .load "settings.toml" (some fileText) seedVariable reversed
    standard.after calls = ⟨⟨.standard, ⟨32, 100⟩⟩⟩ ∧
    ∃ next, load.perform (standard.after calls) = (.ok (), next) ∧
      next.settings.evolution.seed = some 9 ∧
      next.settings.evolution.populationSize = 24 ∧
      next.settings.limits.maxExpansions = 500 ∧
      next.settings.limits.maxDepth = 256 := by
  intro calls load
  refine ⟨rfl, ?_⟩
  obtain ⟨settings, accepted⟩ : ∃ settings,
      Settings.load (some fileText) seedVariable reversed = .ok settings :=
    ⟨⟨{ EvolutionSettings.standard with
      populationSize := 24, seed := some 9 }, ⟨256, 500⟩⟩, by decide +kernel⟩
  obtain ⟨file, inForce⟩ := Settings.load_eq_ok_iff.mp accepted
  obtain ⟨_, ⟨_, _, refused⟩ | ⟨next, done, _, file, found, gathered⟩⟩ :=
    calls_all_or_nothing calls load
  · exact absurd ⟨file, settings, inForce⟩ refused
  · obtain ⟨inEvolution, inGrammar, size, sizeRead, expansions,
        expansionsRead, depth⟩ :=
      holds_of_entriesOf? found (fun file =>
        let tree := Settings.ofFile reversed file
        seedVariable.Agrees .names "evolution" tree ∧
        seedVariable.Agrees .names "grammar" tree ∧
        SettingField.populationSize.SetIn tree ∧
        (SettingField.populationSize.heldBy tree).word? = some 24 ∧
        SettingField.maxExpansions.SetIn tree ∧
        (SettingField.maxExpansions.heldBy tree).word? = some 500 ∧
        ¬ SettingField.maxDepth.SetIn tree) (by decide +kernel)
    have overrides : Settings.OverridesByKey reversed file seedVariable := by
      refine Settings.overridesByKey_of_agrees fun field => ?_
      cases field with
      | maxDepth | maxExpansions => exact ⟨.names, inGrammar⟩
      | _ => exact ⟨.names, inEvolution⟩
    have gathered := gathered overrides
    have unset : ∀ field : SettingField, field ≠ .seed →
        ¬ field.SetIn (Settings.ofEnvironment reversed seedVariable) := by
      intro field other
      cases field with
      | seed => exact absurd rfl other
      | _ => decide +kernel
    refine ⟨next, done, ?_, ?_, ?_, ?_⟩
    · have set := (gathered .seed).fromLater (by decide +kernel)
      exact (Option.some.inj set).symm
    · have set := (gathered .populationSize).fromEarlier
        (unset _ nofun) size
      exact Option.some.inj (set.symm.trans sizeRead)
    · have set := (gathered .maxExpansions).fromEarlier
        (unset _ nofun) expansions
      exact Option.some.inj (set.symm.trans expansionsRead)
    · exact (gathered .maxDepth).byDefault (unset _ nofun) depth

end SettingsStore

end GrammaticalEvolution
