import GrammaticalEvolution.Settings.Store
import Mathlib.Data.List.Basic

/-!
# Where settings come from

Nine fields are read from the tree that a file and the environment make
together.  A field has a name and a place in its section, and a tree holds a
value for it by either.  The later source overrides the earlier one key by key
if the tree of both holds for every field what the tree of the environment does,
or else what the tree of the file does.

That is so, in whatever order the entries come up, if all variables for a
section name fields in one form and the file has the section in that form.  It
need not be so otherwise: a name makes a table of a list, and a position counted
from the end moves the items of a list.
-/

namespace GrammaticalEvolution

/-- A field of the settings. -/
inductive SettingField where
  | populationSize
  | chromosomeLength
  | generations
  | crossoverRate
  | mutationRate
  | targetFitness
  | seed
  | maxDepth
  | maxExpansions
deriving DecidableEq

namespace SettingField

def sectionName : SettingField → String
  | .maxDepth | .maxExpansions => "grammar"
  | _ => "evolution"

def name : SettingField → String
  | .populationSize => "population_size"
  | .chromosomeLength => "chromosome_length"
  | .generations => "num_generations"
  | .crossoverRate => "crossover_rate"
  | .mutationRate => "mutation_rate"
  | .targetFitness => "target_fitness"
  | .seed => "seed"
  | .maxDepth => "max_depth"
  | .maxExpansions => "max_expansions"

/-- The place in the order of the fields of the section. -/
def place : SettingField → Nat
  | .populationSize | .maxDepth => 0
  | .chromosomeLength | .maxExpansions => 1
  | .generations => 2
  | .crossoverRate => 3
  | .mutationRate => 4
  | .targetFitness => 5
  | .seed => 6

end SettingField

namespace Setting

/-- What a table holds under a name, or nothing. -/
def entryAt (name : String) (value : Setting) : Setting :=
  (value.entries.lookup name).getD .nothing

/-- What a list holds at a place, or nothing. -/
def itemAt (place : Nat) (value : Setting) : Setting :=
  value.items[place]?.getD .nothing

/-- The value, with another one in the place of nothing. -/
def orElse : Setting → Setting → Setting
  | .nothing, other => other
  | value, _ => value

instance decidableEqNothing : (value : Setting) → Decidable (value = .nothing)
  | .nothing => .isTrue rfl
  | .bool _ => .isFalse nofun
  | .integer _ => .isFalse nofun
  | .float _ => .isFalse nofun
  | .text _ => .isFalse nofun
  | .list _ => .isFalse nofun
  | .table _ => .isFalse nofun

end Setting

namespace SettingField

/-- What a section holds for a field, or nothing. -/
def within (field : SettingField) (part : Setting) : Setting :=
  (part.field? field.name field.place).getD .nothing

/-- What a tree holds for a field, or nothing. -/
def heldBy (field : SettingField) (tree : Setting) : Setting :=
  field.within (tree.entryAt field.sectionName)

/-- A tree sets a field if it holds a value for it. -/
def SetIn (field : SettingField) (tree : Setting) : Prop :=
  field.heldBy tree ≠ .nothing

instance (field : SettingField) (tree : Setting) :
    Decidable (field.SetIn tree) :=
  inferInstanceAs (Decidable (¬ field.heldBy tree = .nothing))

end SettingField

namespace Settings

/-- What the environment makes by itself. -/
def ofEnvironment (order : LayerOrder) (environment : Environment) : Setting :=
  .ofSource order.environment environment.settings

/-- The environment overrides the file key by key: for every field the tree of
both holds what the environment by itself does, or else what the file by itself
does. -/
def OverridesByKey (order : LayerOrder) (file : Entries)
    (environment : Environment) : Prop :=
  ∀ field : SettingField,
    field.heldBy (layered order file environment) =
      (field.heldBy (ofEnvironment order environment)).orElse
        (field.heldBy (ofFile order file))

end Settings

/-! ### Forms -/

/-- How fields are spoken of: by name, or by place counted from the start. -/
inductive FieldForm where
  | names
  | places
deriving DecidableEq

namespace FieldForm

/-- Steps that name a field in a form. -/
def spells : FieldForm → List PathStep → Bool
  | .names, [.entry _] => true
  | .places, [.position index] => 0 ≤ index
  | _, _ => false

/-- A section of the kind that a form speaks of. -/
def fits : FieldForm → Setting → Bool
  | .names, .table _ => true
  | .places, .list _ => true
  | _, _ => false

/-- The step from a section to a field. -/
def step (field : SettingField) : FieldForm → PathStep
  | .names => .entry field.name
  | .places => .position field.place

/-- What a value holds for a field, looked up in one form only. -/
def slot (field : SettingField) : FieldForm → Setting → Setting
  | .names, part => part.entryAt field.name
  | .places, part => part.itemAt field.place

end FieldForm

namespace Setting

/-- What named values set within a section, by the steps that lead there. -/
def writesTo (sectionName : String) (named : Entries) :
    List (List PathStep × Setting) :=
  named.filterMap fun entry =>
    let path := SettingPath.ofText entry.1
    if path.root = sectionName then some (path.steps, entry.2) else none

/-- A section after writes to it. -/
def written (writes : List (List PathStep × Setting)) (part : Setting) :
    Setting :=
  writes.foldl (fun part write =>
    SettingPath.alterAt write.2.overlay write.1 part) part

end Setting

/-- All variables for a section name fields in a form, and a tree has the
section in that form, if it has it. -/
def Environment.Agrees (environment : Environment) (form : FieldForm)
    (sectionName : String) (tree : Setting) : Prop :=
  ∀ write ∈ Setting.writesTo sectionName environment.settings,
    form.spells write.1 = true ∧
      (form.fits (tree.entryAt sectionName) = true ∨
        tree.entryAt sectionName = .nothing)

instance (environment : Environment) (form : FieldForm) (sectionName : String)
    (tree : Setting) :
    Decidable (environment.Agrees form sectionName tree) :=
  inferInstanceAs (Decidable (∀ _ ∈ _, _))

/-! ### One write -/

namespace Setting

theorem lookup_cons_eq_ite (entry : String × Setting) (entries : Entries)
    (name : String) :
    List.lookup name (entry :: entries) =
      if entry.1 = name then some entry.2 else entries.lookup name := by
  rw [List.lookup_cons]
  by_cases same : entry.1 = name
  · rw [if_pos same, beq_iff_eq.mpr same.symm]
  · rw [if_neg same, beq_false_of_ne (Ne.symm same)]

theorem lookup_alterEntry (name other : String) (change : Setting → Setting)
    (entries : Entries) :
    (alterEntry name change entries).lookup other =
      if name = other then some (change ((entries.lookup name).getD .nothing))
      else entries.lookup other := by
  induction entries with
  | nil => exact lookup_cons_eq_ite (name, change .nothing) [] other
  | cons entry entries induction =>
      rw [alterEntry]
      by_cases here : entry.1 = name
      · rw [if_pos here, lookup_cons_eq_ite, lookup_cons_eq_ite,
          lookup_cons_eq_ite, if_pos here, here, Option.getD_some]
        split <;> rfl
      · rw [if_neg here, lookup_cons_eq_ite, lookup_cons_eq_ite,
          lookup_cons_eq_ite, if_neg here, induction]
        by_cases same : name = other
        · rw [if_pos same, if_neg (same ▸ here), if_pos same]
        · rw [if_neg same, if_neg same]

theorem entryAt_withEntry (value : Setting) (name other : String)
    (change : Setting → Setting) :
    (value.withEntry name change).entryAt other =
      if name = other then change (value.entryAt other)
      else value.entryAt other := by
  simp only [withEntry, entryAt, entries, lookup_alterEntry]
  split
  · next same => rw [same, Option.getD_some]
  · rfl

theorem getElem?_filled (items : List Setting) (count place : Nat) :
    (items ++ List.replicate count nothing)[place]?.getD nothing =
      items[place]?.getD nothing := by
  rw [List.getElem?_append]
  split
  · rfl
  · next beyond =>
      rw [List.getElem?_eq_none (Nat.not_lt.mp beyond), List.getElem?_replicate]
      split <;> rfl

theorem itemAt_alterItem (value : Setting) (place other : Nat)
    (change : Setting → Setting) :
    (list (SettingPath.alterItem place change value.items)).itemAt other =
      if place = other then change (value.itemAt other)
      else value.itemAt other := by
  have forward : ¬ (place : Int) < 0 := by omega
  have items_list (items : List Setting) : (list items).items = items := rfl
  simp only [SettingPath.alterItem, forward, false_and, if_false,
    Int.toNat_natCast, itemAt, items_list, List.getElem?_modify]
  generalize value.items = items
  rw [← getElem?_filled items (place + 1 - items.length) other]
  split
  · next same =>
      -- The list is long enough for the place by now.
      have inside : other < (items ++
          List.replicate (place + 1 - items.length) nothing).length := by
        rw [List.length_append, List.length_replicate]
        omega
      rw [List.getElem?_eq_getElem inside]
      rfl
  · rw [id_map']

theorem orElse_assoc (first second third : Setting) :
    (first.orElse second).orElse third =
      first.orElse (second.orElse third) := by
  cases first <;> rfl

theorem orElse_of_ne_nothing {upper : Setting} (given : upper ≠ .nothing)
    (lower : Setting) : upper.orElse lower = upper := by
  cases upper with
  | nothing => exact absurd rfl given
  | _ => rfl

end Setting

namespace FieldForm

variable {form : FieldForm} {field : SettingField} {steps : List PathStep}
  {part : Setting}

/-- A form has one step for what it spells. -/
theorem eq_of_spells (spelled : form.spells steps = true) :
    (∃ name, form = .names ∧ steps = [.entry name]) ∨
      ∃ place : Nat, form = .places ∧ steps = [.position place] := by
  unfold spells at spelled
  split at spelled
  · exact .inl ⟨_, rfl, rfl⟩
  · next index =>
      obtain ⟨place, rfl⟩ := Int.eq_ofNat_of_zero_le (of_decide_eq_true spelled)
      exact .inr ⟨place, rfl, rfl⟩
  · cases spelled

theorem within_eq_slot (fits : form.fits part = true ∨ part = .nothing) :
    field.within part = form.slot field part := by
  rcases fits with fits | rfl
  · match form, part, fits with
    | .names, .table _, _ => rfl
    | .places, .list _, _ => rfl
  · cases form <;> rfl

theorem fits_alterAt (spelled : form.spells steps = true)
    (change : Setting → Setting) (part : Setting) :
    form.fits (SettingPath.alterAt change steps part) = true := by
  rcases eq_of_spells spelled with ⟨_, rfl, rfl⟩ | ⟨_, rfl, rfl⟩ <;> rfl

/-- A write changes the field it spells, and no other one. -/
theorem slot_alterAt (spelled : form.spells steps = true)
    (change : Setting → Setting) (part : Setting) :
    form.slot field (SettingPath.alterAt change steps part) =
      if steps = [form.step field] then change (form.slot field part)
      else form.slot field part := by
  rcases eq_of_spells spelled with ⟨name, rfl, rfl⟩ | ⟨place, rfl, rfl⟩
  · simp only [slot, SettingPath.alterAt, Setting.entryAt_withEntry, step,
      List.cons.injEq, PathStep.entry.injEq, and_true]
  · simp only [slot, SettingPath.alterAt, Setting.itemAt_alterItem, step,
      List.cons.injEq, PathStep.position.injEq, Int.ofNat_inj, and_true]

end FieldForm

/-! ### All writes to a section -/

namespace Setting

variable {form : FieldForm} {writes : List (List PathStep × Setting)}

/-- A value that is neither nothing nor has parts. -/
def isSingle : Setting → Bool
  | .nothing => false
  | value => !value.isSection

theorem overlay_of_isSingle {upper : Setting} (single : upper.isSingle = true)
    (lower : Setting) : upper.overlay lower = upper := by
  cases upper with
  | table => cases single
  | _ => rfl

theorem ne_nothing_of_isSingle {value : Setting}
    (single : value.isSingle = true) : value ≠ .nothing := by
  rintro rfl
  cases single

/-- What a field has after writes is what the same writes make of nothing, or
else what it had before. -/
theorem slot_written (field : SettingField)
    (spelled : ∀ write ∈ writes, form.spells write.1 = true)
    (single : ∀ write ∈ writes, write.2.isSingle = true) (part : Setting) :
    form.slot field (written writes part) =
      (form.slot field (written writes .nothing)).orElse
        (form.slot field part) := by
  induction writes generalizing part with
  | nil => cases form <;> rfl
  | cons write writes induction =>
      obtain ⟨spelledHere, spelled⟩ := List.forall_mem_cons.mp spelled
      obtain ⟨singleHere, single⟩ := List.forall_mem_cons.mp single
      have later := induction spelled single
      have first (part : Setting) : written (write :: writes) part =
          written writes
            (SettingPath.alterAt write.2.overlay write.1 part) := rfl
      rw [first, first, later, later (SettingPath.alterAt _ _ .nothing),
        FieldForm.slot_alterAt spelledHere, FieldForm.slot_alterAt spelledHere,
        orElse_assoc]
      split
      · rw [overlay_of_isSingle singleHere, overlay_of_isSingle singleHere,
          orElse_of_ne_nothing (ne_nothing_of_isSingle singleHere)]
      · cases form <;> rfl

theorem fits_written (spelled : ∀ write ∈ writes, form.spells write.1 = true)
    (filled : writes ≠ []) (part : Setting) :
    form.fits (written writes part) = true := by
  induction writes generalizing part with
  | nil => exact absurd rfl filled
  | cons write writes induction =>
      obtain ⟨spelledHere, spelled⟩ := List.forall_mem_cons.mp spelled
      cases writes with
      | nil => exact FieldForm.fits_alterAt spelledHere _ part
      | cons next writes => exact induction spelled (List.cons_ne_nil _ _) _

theorem writesTo_cons (sectionName : String) (entry : String × Setting)
    (named : Entries) :
    writesTo sectionName (entry :: named) =
      if (SettingPath.ofText entry.1).root = sectionName then
        ((SettingPath.ofText entry.1).steps, entry.2) ::
          writesTo sectionName named
      else writesTo sectionName named := by
  by_cases here : (SettingPath.ofText entry.1).root = sectionName <;>
    simp [writesTo, here]

/-- Laying named values over a table writes to each of its sections. -/
theorem entryAt_assignAll (named : Entries) (name : String) (value : Setting) :
    (value.assignAll named).entryAt name =
      written (writesTo name named) (value.entryAt name) := by
  induction named generalizing value with
  | nil => rfl
  | cons entry named induction =>
      rw [assignAll, List.foldl_cons, ← assignAll, induction,
        SettingPath.assign, entryAt_withEntry, writesTo_cons]
      split <;> rfl

theorem heldBy_laySource (field : SettingField) (order : SourceOrder)
    (source : Entries) (value : Setting) :
    field.heldBy (laySource order source value) =
      field.within (written
        (writesTo field.sectionName (order.arrange source))
        (value.entryAt field.sectionName)) :=
  congrArg field.within (entryAt_assignAll _ _ value)

/-- The order of a source does not change what is written. -/
theorem mem_writesTo_arrange (order : SourceOrder) (source : Entries)
    (name : String) (write : List PathStep × Setting) :
    write ∈ writesTo name (order.arrange source) ↔
      write ∈ writesTo name source :=
  ((order.perm source).filterMap _).mem_iff

end Setting

/-! ### Writes of the environment -/

namespace Environment

variable {environment : Environment}

theorem isSingle_settingOf (text : String) :
    (settingOf text).isSingle = true := by
  unfold settingOf
  dsimp only
  split
  · rfl
  split
  · rfl
  split <;> rfl

theorem mem_of_mem_lastNamed {entry : String × Setting} {entries : Entries}
    (member : entry ∈ lastNamed entries) : entry ∈ entries := by
  induction entries with
  | nil => exact member
  | cons first rest induction =>
      rw [lastNamed] at member
      split at member
      · exact List.mem_cons_of_mem _ (induction member)
      · rcases List.mem_cons.mp member with rfl | later
        · exact List.mem_cons_self
        · exact List.mem_cons_of_mem _ (induction later)

theorem isSingle_of_mem_settings {entry : String × Setting}
    (member : entry ∈ environment.settings) : entry.2.isSingle = true := by
  obtain ⟨⟨_, text⟩, _, named⟩ := List.mem_filterMap.mp
    (mem_of_mem_lastNamed member)
  obtain ⟨_, _, rfl⟩ := Option.map_eq_some_iff.mp named
  exact isSingle_settingOf text

theorem isSingle_of_mem_writesTo {sectionName : String}
    {write : List PathStep × Setting}
    (member : write ∈ Setting.writesTo sectionName environment.settings) :
    write.2.isSingle = true := by
  obtain ⟨entry, listed, wrote⟩ := List.mem_filterMap.mp member
  dsimp only at wrote
  split at wrote
  · cases wrote
    exact isSingle_of_mem_settings listed
  · cases wrote

end Environment

/-! ### Both sources -/

namespace Settings

/-- An environment that agrees with a file overrides it key by key, in whatever
order the entries of both come up. -/
theorem overridesByKey_of_agrees {order : LayerOrder} {file : Entries}
    {environment : Environment}
    (agrees : ∀ field : SettingField, ∃ form,
      environment.Agrees form field.sectionName (ofFile order file)) :
    OverridesByKey order file environment := by
  intro field
  obtain ⟨form, agrees⟩ := agrees field
  rw [layered, ofEnvironment, Setting.ofSource, Setting.heldBy_laySource,
    Setting.heldBy_laySource]
  have same (write : List PathStep × Setting) :=
    (Setting.mem_writesTo_arrange order.environment environment.settings
      field.sectionName write).mp
  generalize Setting.writesTo field.sectionName
    (order.environment.arrange environment.settings) = writes at same ⊢
  by_cases silent : writes = []
  · -- The environment does not speak of the section.
    rw [silent]
    rfl
  · have spelled : ∀ write ∈ writes, form.spells write.1 = true :=
      fun write member => (agrees write (same write member)).1
    have single : ∀ write ∈ writes, write.2.isSingle = true :=
      fun write member =>
        Environment.isSingle_of_mem_writesTo (same write member)
    obtain ⟨write, member⟩ := List.exists_mem_of_ne_nil _ silent
    rw [FieldForm.within_eq_slot (.inl (Setting.fits_written spelled silent _)),
      FieldForm.within_eq_slot (.inl (Setting.fits_written spelled silent _)),
      SettingField.heldBy,
      FieldForm.within_eq_slot (agrees write (same write member)).2]
    exact Setting.slot_written field spelled single _

/-- A name makes a table of a list, and what the list held is lost. -/
example :
    let file : Entries := [("grammar", .list [.integer 16, .integer 100])]
    let environment : Environment := [("GACORE_GRAMMAR__MAX_DEPTH", "20")]
    ¬ OverridesByKey .asGiven file environment := by
  intro file environment overrides
  have kept := congrArg Setting.word? (overrides .maxExpansions)
  exact absurd kept (by decide +kernel)

end Settings

end GrammaticalEvolution
