import GrammaticalEvolution.Proofs.SettingsSources

/-!
# Settings gathered from their sources

Every field of settings that are loaded has the value that the environment sets
it to, or else the value that the file sets it to, or else its standard value.
Reading a section field by field is the same for all fields, so it is proved for
a field in general.
-/

namespace GrammaticalEvolution

namespace SettingField

/-- The values of a field. -/
def Value : SettingField → Type
  | .crossoverRate | .mutationRate => Float
  | .targetFitness => Option Float
  | .seed => Option UInt64
  | _ => Nat

end SettingField

/-- The value of a field. -/
def Settings.get (settings : Settings) : (field : SettingField) → field.Value
  | .populationSize => settings.evolution.populationSize
  | .chromosomeLength => settings.evolution.chromosomeLength
  | .generations => settings.evolution.generations
  | .crossoverRate => settings.evolution.crossoverRate
  | .mutationRate => settings.evolution.mutationRate
  | .targetFitness => settings.evolution.targetFitness
  | .seed => settings.evolution.seed
  | .maxDepth => settings.limits.maxDepth
  | .maxExpansions => settings.limits.maxExpansions

namespace SettingField

/-- The value of a field that a setting stands for. -/
def read? : (field : SettingField) → Setting → Option field.Value
  | .populationSize | .chromosomeLength | .generations | .maxDepth
  | .maxExpansions => Setting.word?
  | .crossoverRate | .mutationRate => Setting.number?
  | .targetFitness => Setting.optional? Setting.number?
  | .seed => fun value =>
      (Setting.optional? Setting.word? value).map (Option.map Nat.toUInt64)

/-- The standard value of a field. -/
def standard (field : SettingField) : field.Value :=
  Settings.standard.get field

/-- Read a value; nothing stands for the standard one. -/
def readOr (field : SettingField) : Setting → Option field.Value
  | .nothing => some field.standard
  | value => field.read? value

/-- A later and an earlier source give the value of a field: the later one if it
sets the field, or else the earlier one if that does, and else it is the
standard one. -/
structure Gives (field : SettingField) (later earlier : Setting)
    (value : field.Value) : Prop where
  fromLater : field.SetIn later →
    field.read? (field.heldBy later) = some value
  fromEarlier : ¬ field.SetIn later → field.SetIn earlier →
    field.read? (field.heldBy earlier) = some value
  byDefault : ¬ field.SetIn later → ¬ field.SetIn earlier →
    value = field.standard

end SettingField

/-- The environment and the file give the values of all fields. -/
def Settings.Gathered (settings : Settings) (order : LayerOrder)
    (file : Entries) (environment : Environment) : Prop :=
  ∀ field : SettingField,
    field.Gives (ofEnvironment order environment) (ofFile order file)
      (settings.get field)

/-! ### Fields -/

namespace SettingField

variable {field : SettingField} {value : field.Value}

/-- A field that can be read from nothing has its standard value then. -/
theorem read?_nothing (read : field.read? .nothing = some value) :
    value = field.standard := by
  cases field with
  | targetFitness | seed => exact (Option.some.inj read).symm
  | _ => cases read

theorem readOr_of_ne_nothing {part : Setting} (given : part ≠ .nothing) :
    field.readOr part = field.read? part := by
  cases part with
  | nothing => exact absurd rfl given
  | _ => rfl

theorem readOr_of_readField? {part : Setting}
    (read : part.readField? field.name field.place field.read?
      field.standard = some value) :
    field.readOr (field.within part) = some value := by
  unfold Setting.readField? at read
  unfold within
  split at read
  · next slot found =>
      rw [found, Option.getD_some]
      by_cases empty : slot = .nothing
      · subst empty
        rw [read?_nothing read]
        rfl
      · rw [readOr_of_ne_nothing empty, read]
  · next missing =>
      rw [missing, ← read]
      rfl

/-- A field is read from a section of a table, or the section is missing and
standard. -/
theorem readOr_heldBy {α : Type} {entries : Entries}
    {readSection? : Setting → Option α} {standardSection given : α}
    {index : Nat} (get : α → field.Value)
    (fields : ∀ part read, readSection? part = some read →
      field.readOr (field.within part) = some (get read))
    (standard : get standardSection = field.standard)
    (read : (Setting.table entries).readField? field.sectionName index
      readSection? standardSection = some given) :
    field.readOr (field.heldBy (.table entries)) = some (get given) := by
  unfold Setting.readField? Setting.field? at read
  unfold heldBy Setting.entryAt Setting.entries
  dsimp only at read ⊢
  split at read
  · next part found =>
      rw [found, Option.getD_some]
      exact fields part given read
  · next missing =>
      rw [missing, ← Option.some.inj read, standard]
      rfl

/-- If the sources are merged key by key, the value that is read is given by
them. -/
theorem gives_of_readOr {merged later earlier : Setting}
    (overrides : field.heldBy merged =
      (field.heldBy later).orElse (field.heldBy earlier))
    (read : field.readOr (field.heldBy merged) = some value) :
    field.Gives later earlier value := by
  rw [overrides] at read
  have unset {tree : Setting} (unset : ¬ field.SetIn tree) :
      field.heldBy tree = .nothing := not_not.mp unset
  constructor
  · intro set
    rwa [Setting.orElse_of_ne_nothing set, readOr_of_ne_nothing set] at read
  · intro notLater set
    rw [unset notLater] at read
    exact (readOr_of_ne_nothing set).symm.trans read
  · intro notLater notEarlier
    rw [unset notLater, unset notEarlier] at read
    exact (Option.some.inj read).symm

end SettingField

/-! ### Sections -/

theorem Setting.readField?_map {α β : Type} {part : Setting} {name : String}
    {place : Nat} {read? : Setting → Option α} {standard value : α}
    (read : part.readField? name place read? standard = some value)
    (change : α → β) :
    part.readField? name place (fun value => (read? value).map change)
      (change standard) = some (change value) := by
  unfold readField? at read ⊢
  split at read
  · exact Option.map_eq_some_iff.mpr ⟨value, read, rfl⟩
  · cases read
    rfl

theorem EvolutionSettings.readField?_of_ofSetting? {part : Setting}
    {evolution : EvolutionSettings} (read : ofSetting? part = some evolution)
    {field : SettingField} (inside : field.sectionName = "evolution")
    (limits : DerivationLimits) :
    part.readField? field.name field.place field.read? field.standard =
      some (Settings.get ⟨evolution, limits⟩ field) := by
  unfold ofSetting? at read
  split at read
  · cases read
  · simp only [bind, pure, Option.bind_eq_some_iff] at read
    obtain ⟨_, populationSize, _, chromosomeLength, _, generations, _,
      crossoverRate, _, mutationRate, _, targetFitness, _, seed, made⟩ := read
    cases made
    cases field with
    | populationSize => exact populationSize
    | chromosomeLength => exact chromosomeLength
    | generations => exact generations
    | crossoverRate => exact crossoverRate
    | mutationRate => exact mutationRate
    | targetFitness => exact targetFitness
    | seed => exact Setting.readField?_map seed _
    | maxDepth | maxExpansions => exact absurd inside (by decide)

theorem DerivationLimits.readField?_of_ofSetting? {part : Setting}
    {limits : DerivationLimits} (read : ofSetting? part = some limits)
    {field : SettingField} (inside : field.sectionName = "grammar")
    (evolution : EvolutionSettings) :
    part.readField? field.name field.place field.read? field.standard =
      some (Settings.get ⟨evolution, limits⟩ field) := by
  unfold ofSetting? at read
  split at read
  · cases read
  · simp only [bind, pure, Option.bind_eq_some_iff] at read
    obtain ⟨_, maxDepth, _, maxExpansions, made⟩ := read
    cases made
    cases field with
    | maxDepth => exact maxDepth
    | maxExpansions => exact maxExpansions
    | _ => exact absurd inside (by decide)

/-! ### Settings -/

namespace Settings

variable {file : Entries} {environment : Environment} {order : LayerOrder}
  {settings : Settings}

/-- Settings are read from a table field by field. -/
theorem readOr_get {entries : Entries}
    (read : ofSetting? (.table entries) = some settings)
    (field : SettingField) :
    field.readOr (field.heldBy (.table entries)) =
      some (settings.get field) := by
  simp only [ofSetting?, bind, pure, Option.bind_eq_some_iff] at read
  obtain ⟨evolution, evolutionRead, limits, limitsRead, made⟩ := read
  cases made
  have ofEvolution (inside : field.sectionName = "evolution")
      (standard : get ⟨.standard, limits⟩ field = field.standard) :=
    SettingField.readOr_heldBy (fun part => get ⟨part, limits⟩ field)
      (fun _ _ sectionRead => SettingField.readOr_of_readField?
        (EvolutionSettings.readField?_of_ofSetting? sectionRead inside limits))
      standard (inside ▸ evolutionRead)
  have ofLimits (inside : field.sectionName = "grammar")
      (standard : get ⟨evolution, .standard⟩ field = field.standard) :=
    SettingField.readOr_heldBy (fun part => get ⟨evolution, part⟩ field)
      (fun _ _ sectionRead => SettingField.readOr_of_readField?
        (DerivationLimits.readField?_of_ofSetting? sectionRead inside
          evolution))
      standard (inside ▸ limitsRead)
  cases field with
  | maxDepth | maxExpansions => exact ofLimits rfl rfl
  | _ => exact ofEvolution rfl rfl

theorem assignAll_table (named entries : Entries) :
    ∃ later, (Setting.table entries).assignAll named = .table later := by
  induction named generalizing entries with
  | nil => exact ⟨entries, rfl⟩
  | cons entry named induction => exact induction _

theorem layered_table (order : LayerOrder) (file : Entries)
    (environment : Environment) :
    ∃ entries, layered order file environment = .table entries := by
  obtain ⟨before, base⟩ := assignAll_table (order.file.arrange file) []
  obtain ⟨entries, layers⟩ := assignAll_table
    (order.environment.arrange environment.settings) before
  exact ⟨entries, by rw [← layers, ← base]; rfl⟩

/-- If the environment overrides the file key by key, they give the values of
all fields of the settings that are read. -/
theorem gathered_of_ofSetting?
    (overrides : OverridesByKey order file environment)
    (read : ofSetting? (layered order file environment) = some settings) :
    settings.Gathered order file environment := by
  intro field
  refine SettingField.gives_of_readOr (overrides field) ?_
  obtain ⟨entries, layers⟩ := layered_table order file environment
  rw [layers] at read ⊢
  exact readOr_get read field

/-- The entries of a file, if there is one and it can be read. -/
def entriesOf? (text? : Option String) : Option Entries :=
  (text?.map fun text => Toml.dropMark text.toList).bind Toml.read?

/-- Settings are loaded if and only if the file can be read, holds settings
together with the environment, and these are valid. -/
theorem load_eq_ok_iff {text? : Option String} :
    load text? environment order = .ok settings ↔
      ∃ file, entriesOf? text? = some file ∧
        ofSetting? (layered order file environment) = some settings ∧
        settings.validate = .ok () := by
  unfold load
  simp only
  rw [← entriesOf?]
  constructor
  · intro loaded
    cases found : entriesOf? text? with
    | none =>
        rw [found] at loaded
        cases loaded
    | some file =>
        rw [found] at loaded
        simp only [bind, Except.bind] at loaded
        split at loaded
        · cases loaded
        · next result read =>
            cases valid : result.validate with
            | error error =>
                rw [valid] at loaded
                cases loaded
            | ok =>
                rw [valid] at loaded
                cases loaded
                exact ⟨file, rfl, read, valid⟩
  · rintro ⟨file, found, read, valid⟩
    rw [found]
    simp only [bind, Except.bind, read, valid]
    rfl

end Settings

end GrammaticalEvolution
