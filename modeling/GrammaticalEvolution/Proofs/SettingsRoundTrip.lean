import GrammaticalEvolution.Proofs.SettingsLayers
import GrammaticalEvolution.Proofs.Toml.Numbers
import GrammaticalEvolution.Settings.Store

/-!
# Saved settings are loaded again

Settings are written as a plain document of two tables, as long as their
integers fit the signed 64 bits of the format.  Without variables in the
environment the document is loaded as the same settings.
-/

namespace GrammaticalEvolution

open Decimal
open Toml (Line Table documentChars)

/-! ### The document -/

def Toml.Line.ofInteger (name : String) (number : Nat) : Line :=
  ⟨name, naturalChars number, .integer (Int64.ofInt number)⟩

def Toml.Line.ofFloat (name : String) (number : Float) : Line :=
  ⟨name, Layout.settings.chars number, .float number⟩

def EvolutionSettings.table (settings : EvolutionSettings) : Table where
  header := "evolution"
  lines :=
    [.ofInteger "population_size" settings.populationSize,
      .ofInteger "chromosome_length" settings.chromosomeLength,
      .ofInteger "num_generations" settings.generations,
      .ofFloat "crossover_rate" settings.crossoverRate,
      .ofFloat "mutation_rate" settings.mutationRate] ++
    (settings.targetFitness.map (.ofFloat "target_fitness")).toList ++
    (settings.seed.map fun seed => Line.ofInteger "seed" seed.toNat).toList

def DerivationLimits.table (limits : DerivationLimits) : Table where
  header := "grammar"
  lines := [.ofInteger "max_depth" limits.maxDepth,
    .ofInteger "max_expansions" limits.maxExpansions]

/-! ### Lines -/

namespace Toml.Line

variable {name : String}

theorem bare_ofInteger (bare : BareName name.toList) {number : Nat}
    (fits : number ≤ Settings.largestInteger) :
    (ofInteger name number).Bare where
  name := bare
  value := {
    filled := naturalChars_ne_nil number
    plain := fun _ member =>
      isBare_of_isDigit (isDigit_of_mem_naturalChars member)
    read := readBare?_naturalChars (Int.ofNat_le.mpr fits) }

theorem bare_ofFloat (bare : BareName name.toList) {number : Float}
    (defined : number.isNaN = false) : (ofFloat name number).Bare := by
  obtain ⟨negative, body, magnitude, written, unsigned, rfl⟩ :=
    unsigned_chars defined
  refine ⟨bare, ?_⟩
  change BareValue (Layout.settings.chars _) _
  rw [written]
  exact {
    filled := by
      obtain ⟨first, rest, rfl, _⟩ := unsigned.head
      cases negative <;> exact List.cons_ne_nil _ _
    plain := fun char member => by
      rcases mem_signed member with rfl | inside
      · rfl
      · exact unsigned.plain char inside
    read := unsigned.readBare?_signed negative }

end Toml.Line

namespace Settings

variable {settings : Settings}

def tables (settings : Settings) : List Table :=
  [settings.evolution.table, settings.limits.table]

/-- The integers of settings. -/
def integers (settings : Settings) : List Nat :=
  [settings.evolution.populationSize, settings.evolution.chromosomeLength,
    settings.evolution.generations] ++
  (settings.evolution.seed.map UInt64.toNat).toList ++
  [settings.limits.maxDepth, settings.limits.maxExpansions]

/-- The floats of settings. -/
def floats (settings : Settings) : List Float :=
  [settings.evolution.crossoverRate, settings.evolution.mutationRate] ++
  settings.evolution.targetFitness.toList

/-- The settings have a text: no integer is beyond the signed 64 bits. -/
def Writable (settings : Settings) : Prop :=
  ∀ number ∈ settings.integers, number ≤ largestInteger

theorem integerLine?_eq_some_iff {name text : String} {number : Nat} :
    integerLine? name number = some text ↔ number ≤ largestInteger ∧
      String.ofList (Line.ofInteger name number).chars = text := by
  have written : s!"{name} = {number}\n" =
      String.ofList (Line.ofInteger name number).chars := by
    change name ++ " = " ++ toString number ++ "\n" = _
    rw [← String.toList_inj, String.toList_append, String.toList_append,
      String.toList_append, Toml.toList_toString, String.toList_ofList]
    simp [Line.ofInteger, Line.chars]
  rw [integerLine?, written]
  split_ifs with fits
  · simp [fits]
  · simp [fits]

theorem floatLine_eq (name : String) (number : Float) :
    floatLine name number = String.ofList (Line.ofFloat name number).chars := by
  rw [← String.toList_inj]
  simp [floatLine, Line.ofFloat, Line.chars, Layout.write]

theorem ofList_tables (settings : Settings) :
    String.ofList (documentChars settings.tables) =
      "[evolution]\n" ++
      String.ofList (settings.evolution.table.lines.flatMap Line.chars) ++
      "\n[grammar]\n" ++
      String.ofList (settings.limits.table.lines.flatMap Line.chars) := by
  rw [← String.toList_inj]
  simp [tables, documentChars, Table.chars, EvolutionSettings.table,
    DerivationLimits.table]

/-- Settings are written if and only if their integers fit. -/
theorem write?_eq_some_iff {text : String} :
    settings.write? = some text ↔ settings.Writable ∧
      String.ofList (documentChars settings.tables) = text := by
  obtain ⟨⟨size, length, generations, crossover, mutation, target, seed⟩,
    depth, expansions⟩ := settings
  rw [ofList_tables]
  cases target <;> cases seed <;>
  · simp only [write?, floatLine_eq, Option.bind_eq_bind,
      Option.bind_eq_some_iff, integerLine?_eq_some_iff, and_assoc,
      exists_and_left, exists_eq_left', Option.pure_def, Option.some.injEq]
    simp [Writable, integers, EvolutionSettings.table, DerivationLimits.table,
      and_assoc, String.append_assoc]

/-! ### Loading -/

/-- In whatever order the tables are laid, they stand side by side. -/
theorem layered_tables {tables : List Table} (order : LayerOrder)
    (bare : ∀ table ∈ tables, table.Bare)
    (distinct : (tables.map Table.header).Nodup)
    (lines : ∀ table ∈ tables, (table.lines.map Line.name).Nodup)
    (settled : ∀ table ∈ tables, ∀ line ∈ table.lines, line.value.Settled)
    {environment : Environment} (clear : environment.settings = []) :
    layered order (tables.map Table.entry) environment =
      .table (order.file.arrange (tables.map Table.entry)) := by
  have perm := order.file.perm (tables.map Table.entry)
  have names : ∀ entry ∈ tables.map Table.entry,
      Toml.BareName entry.1.toList :=
    List.forall_mem_map.mpr fun table member => (bare table member).header
  have values : ∀ entry ∈ tables.map Table.entry, entry.2.Settled := by
    refine List.forall_mem_map.mpr fun table member => ?_
    refine Setting.settled_table ?_
      (List.forall_mem_map.mpr (settled table member))
    rw [List.map_map]
    exact lines table member
  have headers : (([] ++ order.file.arrange (tables.map Table.entry)).map
      Prod.fst).Nodup := by
    rw [List.nil_append, (perm.map Prod.fst).nodup_iff, List.map_map]
    exact distinct
  have none : order.environment.arrange [] = [] :=
    (order.environment.perm []).eq_nil
  rw [layered, clear, ofFile, Setting.ofSource, Setting.laySource,
    Setting.laySource, Setting.assignAll_fresh
      (fun entry member => names entry (perm.subset member)) headers
      (fun entry member => values entry (perm.subset member)), none]
  rfl

theorem word?_ofInt {number : Nat} (fits : number ≤ largestInteger) :
    Setting.word? (.integer (Int64.ofInt number)) = some number := by
  have largest : largestInteger = 2 ^ 63 - 1 := rfl
  have exact : (Int64.ofInt number).toInt = number :=
    Int64.toInt_ofInt_of_le (by omega) (by omega)
  rw [Setting.word?, exact, if_pos (Int.natCast_nonneg number),
    Int.toNat_natCast]

open Setting in
theorem ofSetting?_evolution (fits : settings.Writable) :
    EvolutionSettings.ofSetting?
      (.table (settings.evolution.table.lines.map Line.entry)) =
        some settings.evolution := by
  obtain ⟨⟨size, length, generations, crossover, mutation, target, seed⟩,
    limits⟩ := settings
  have standard : EvolutionSettings.standard.targetFitness = none := rfl
  cases target <;> cases seed <;>
  · simp only [Writable, integers, Option.map_some, Option.map_none,
      Option.toList_some, Option.toList_none, List.forall_mem_append,
      List.forall_mem_cons] at fits
    simp [EvolutionSettings.ofSetting?, EvolutionSettings.table, isSection,
      readField?, field?, List.lookup_cons, Line.entry, Line.ofInteger,
      Line.ofFloat, word?_ofInt, number?, optional?, fits, standard]

open Setting in
theorem ofSetting?_limits (fits : settings.Writable) :
    DerivationLimits.ofSetting?
      (.table (settings.limits.table.lines.map Line.entry)) =
        some settings.limits := by
  simp only [Writable, integers, List.forall_mem_append,
    List.forall_mem_cons] at fits
  simp [DerivationLimits.ofSetting?, DerivationLimits.table, isSection,
    readField?, field?, List.lookup_cons, Line.entry, Line.ofInteger,
    word?_ofInt, fits]

theorem nodup_headers (settings : Settings) :
    (settings.tables.map Table.header).Nodup := by
  change ["evolution", "grammar"].Nodup
  decide

/-- The tables of settings hold these settings, in any order. -/
theorem ofSetting?_tables (fits : settings.Writable) {entries : Entries}
    (perm : (settings.tables.map Table.entry).Perm entries) :
    ofSetting? (.table entries) = some settings := by
  have distinct : ((settings.tables.map Table.entry).map Prod.fst).Nodup := by
    rw [List.map_map]
    exact settings.nodup_headers
  have evolution : (Setting.table entries).field? "evolution" 0 =
      some (.table (settings.evolution.table.lines.map Line.entry)) :=
    (Setting.lookup_perm perm distinct "evolution").symm
  have limits : (Setting.table entries).field? "grammar" 1 =
      some (.table (settings.limits.table.lines.map Line.entry)) :=
    (Setting.lookup_perm perm distinct "grammar").symm
  simp only [ofSetting?, Setting.readField?, evolution, limits,
    ofSetting?_evolution fits, ofSetting?_limits fits]
  rfl

/-! ### Contents of lines -/

/-- Lines that hold one of the numbers of settings. -/
inductive Holds (settings : Settings) : Line → Prop where
  | integer {name : String} {number : Nat} (bare : Toml.BareName name.toList)
      (member : number ∈ settings.integers) :
      Holds settings (.ofInteger name number)
  | float {name : String} {number : Float} (bare : Toml.BareName name.toList)
      (member : number ∈ settings.floats) :
      Holds settings (.ofFloat name number)

theorem mem_toList_map {α β : Type} {change : α → β} {value : Option α}
    {result : β} (member : result ∈ (value.map change).toList) :
    ∃ part, value = some part ∧ result = change part := by
  obtain ⟨part, found, rfl⟩ := Option.map_eq_some_iff.mp
    (Option.mem_toList.mp member)
  exact ⟨part, found, rfl⟩

theorem holds_evolution (settings : Settings) :
    ∀ line ∈ settings.evolution.table.lines, settings.Holds line := by
  refine List.forall_mem_append.mpr ⟨List.forall_mem_append.mpr
    ⟨?_, fun line member => ?_⟩, fun line member => ?_⟩
  · simp only [List.forall_mem_cons]
    exact ⟨.integer (by decide) (by simp [integers]),
      .integer (by decide) (by simp [integers]),
      .integer (by decide) (by simp [integers]),
      .float (by decide) (by simp [floats]),
      .float (by decide) (by simp [floats]), nofun⟩
  · obtain ⟨target, given, rfl⟩ := mem_toList_map member
    exact .float (by decide) (by simp [floats, given])
  · obtain ⟨seed, given, rfl⟩ := mem_toList_map member
    exact .integer (by decide) (by simp [integers, given])

theorem holds_limits (settings : Settings) :
    ∀ line ∈ settings.limits.table.lines, settings.Holds line := by
  refine List.forall_mem_cons.mpr ⟨?_, List.forall_mem_singleton.mpr ?_⟩
  · exact .integer (by decide) (by simp [integers])
  · exact .integer (by decide) (by simp [integers])

theorem Holds.bare {line : Line} (holds : settings.Holds line)
    (fits : settings.Writable)
    (defined : ∀ number ∈ settings.floats, number.isNaN = false) :
    line.Bare := by
  cases holds with
  | integer bare member => exact Line.bare_ofInteger bare (fits _ member)
  | float bare member => exact Line.bare_ofFloat bare (defined _ member)

theorem Holds.settled {line : Line} (holds : settings.Holds line) :
    line.value.Settled := by
  cases holds <;> rfl

theorem bare_tables (fits : settings.Writable)
    (defined : ∀ number ∈ settings.floats, number.isNaN = false) :
    ∀ table ∈ settings.tables, table.Bare := by
  refine List.forall_mem_cons.mpr ⟨⟨?_, fun line member => ?_⟩,
    List.forall_mem_singleton.mpr ⟨?_, fun line member => ?_⟩⟩
  · change Toml.BareName "evolution".toList
    decide
  · exact (settings.holds_evolution line member).bare fits defined
  · change Toml.BareName "grammar".toList
    decide
  · exact (settings.holds_limits line member).bare fits defined

theorem settled_tables (settings : Settings) : ∀ table ∈ settings.tables,
    ∀ line ∈ table.lines, line.value.Settled :=
  List.forall_mem_cons.mpr
    ⟨fun line member => (settings.holds_evolution line member).settled,
      List.forall_mem_singleton.mpr fun line member =>
        (settings.holds_limits line member).settled⟩

theorem nodup_lines (settings : Settings) :
    ∀ table ∈ settings.tables, (table.lines.map Line.name).Nodup := by
  refine List.forall_mem_cons.mpr ⟨?_, List.forall_mem_singleton.mpr ?_⟩
  · obtain ⟨⟨_, _, _, _, _, target, seed⟩, _⟩ := settings
    cases target <;> cases seed <;>
      simp [EvolutionSettings.table, Line.ofInteger, Line.ofFloat]
  · change ["max_depth", "max_expansions"].Nodup
    decide

/-! ### Stores -/

/-- Without variables in the environment a written text is loaded as the
settings it was written from. -/
theorem load_written {environment : Environment} {text : String}
    (order : LayerOrder)
    (defined : ∀ number ∈ settings.floats, number.isNaN = false)
    (clear : environment.settings = []) (valid : settings.validate = .ok ())
    (written : settings.write? = some text) :
    load (some text) environment order = .ok settings := by
  obtain ⟨fits, rfl⟩ := write?_eq_some_iff.mp written
  have bare := bare_tables fits defined
  have read := Toml.read?_document bare settings.nodup_headers
    settings.nodup_lines
  have layers := layered_tables order bare settings.nodup_headers
    settings.nodup_lines settings.settled_tables clear
  have held := ofSetting?_tables fits (order.file.perm _).symm
  unfold load
  simp only [Option.map_some, String.toList_ofList, Toml.dropMark_document,
    Option.bind_some, read, bind, Except.bind, layers, held, valid]
  rfl

end Settings

theorem Environment.settings_eq_nil {environment : Environment}
    (clear : ∀ entry ∈ environment, settingName? entry.1 = none) :
    environment.settings = [] :=
  congrArg lastNamed (List.filterMap_eq_nil_iff.mpr fun entry member => by
    rw [clear entry member]
    rfl)

namespace SettingsStore

theorem update_eq_ok {store next : SettingsStore} {change : Settings → Settings}
    (accepted : store.update change = (.ok (), next)) :
    next.settings.validate = .ok () := by
  unfold update at accepted
  dsimp only at accepted
  split at accepted
  · next valid =>
      obtain rfl := congrArg Prod.snd accepted
      exact valid
  · exact nomatch congrArg Prod.fst accepted

/-- Settings that a store accepts have a text if and only if none of their
integers is beyond the signed 64 bits.  When no float is NaN and no variable
names a setting, every store that loads the text holds the same settings, in
whatever order the tables of the text come up. -/
theorem saved_settings_load {store next : SettingsStore}
    {change : Settings → Settings} {environment : Environment}
    (accepted : store.update change = (.ok (), next))
    (defined : ∀ number ∈ next.settings.floats, number.isNaN = false)
    (clear : ∀ entry ∈ environment,
      Environment.settingName? entry.1 = none) :
    ((∃ text, next.settings.write? = some text) ↔
      ∀ number ∈ next.settings.integers, number ≤ Settings.largestInteger) ∧
    ∀ text, next.settings.write? = some text →
      ∀ (reader : SettingsStore) (name : String) (order : LayerOrder),
        (reader.load name (some text) environment order).value =
          (.ok (), next) := by
  constructor
  · simp only [Settings.write?_eq_some_iff, exists_and_left, exists_eq',
      and_true]
    rfl
  · intro text written reader name order
    have loaded := Settings.load_written order defined
      (Environment.settings_eq_nil clear) (update_eq_ok accepted) written
    rw [load, loaded]
    rfl

/-- Standard settings with a target and a seed. -/
def seeded (seed : UInt64) : Settings :=
  { Settings.standard with
    evolution := { EvolutionSettings.standard with
      targetFitness := some (-0.0), seed := some seed } }

theorem seeded_settings_load :
    (∃ text, (seeded 42).write? = some text ∧
      (standard.load "saved.toml" (some text) [("PATH", "/bin")]
        ⟨⟨List.reverse, List.reverse_perm⟩, .asGiven⟩).value =
          (.ok (), ⟨seeded 42⟩)) ∧
    standard.update (fun _ => seeded 9223372036854775808) =
      (.ok (), ⟨seeded 9223372036854775808⟩) ∧
    (seeded 9223372036854775808).write? = none := by
  have clear : ∀ entry ∈ [("PATH", "/bin")],
      Environment.settingName? entry.1 = none := by decide
  refine ⟨?_, rfl, ?_⟩
  · obtain ⟨writable, loads⟩ := saved_settings_load
      (rfl : standard.update (fun _ => seeded 42) = (.ok (), ⟨seeded 42⟩))
      (by decide) clear
    obtain ⟨text, written⟩ := writable.mpr (by decide)
    exact ⟨text, written, loads text written standard "saved.toml" _⟩
  · obtain ⟨writable, _⟩ := saved_settings_load
      (rfl : standard.update (fun _ => seeded 9223372036854775808) =
        (.ok (), ⟨seeded 9223372036854775808⟩)) (by decide) clear
    by_contra written
    have fits := writable.mp (Option.ne_none_iff_exists'.mp written)
    exact absurd (fits 9223372036854775808 (by decide)) (by decide)

end SettingsStore

end GrammaticalEvolution
