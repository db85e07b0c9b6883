import GrammaticalEvolution.Derivation
import GrammaticalEvolution.Proofs.CyclicReading
import Mathlib.Data.List.Basic

/-!
# Leftmost rewriting

A grammar rewrites a tree: the first symbol in reading order that names a rule
gives way to one of the rule's alternatives, which a word of genes selects.
Nothing here knows of recursion or of counters.  The places of the rewritten
symbols are recorded, and a rewrite lies within all earlier ones whose places
are prefixes of its own.
-/

namespace GrammaticalEvolution

namespace Rewriting

/-- The place of a node: positions of the items to descend through. -/
abbrev Path := List Nat

/-- A symbol that names a rule: its place and the alternatives of the rule. -/
structure Site where
  path : Path
  alternatives : List Expression

def Site.inItem (index : Nat) (site : Site) : Site :=
  { site with path := index :: site.path }

mutual

/-- The first symbol in reading order that names a rule. -/
def leftmost? (grammar : Grammar) : Expression → Option Site
  | .atom value =>
      (grammar.ruleOf? (.atom value)).map fun rule => ⟨[], rule.2⟩
  | .list items => leftmostItem? grammar 0 items

/-- The first such symbol of some items, the first of which stands at
`index`. -/
def leftmostItem? (grammar : Grammar) :
    (index : Nat) → List Expression → Option Site
  | _, [] => none
  | index, item :: items =>
      match leftmost? grammar item with
      | some site => some (site.inItem index)
      | none => leftmostItem? grammar (index + 1) items

end

def replaceAt (new : Expression) : Path → Expression → Expression
  | [], _ => new
  | index :: path, .list items =>
      .list (items.modify index (replaceAt new path))
  | _ :: _, .atom value => .atom value

/-- Replace the leftmost symbol that names a rule by the alternative whose
number is the gene's remainder.  The place comes with the new tree. -/
def rewrite? (grammar : Grammar) (gene : Gene) (tree : Expression) :
    Option (Path × Expression) := do
  let site ← leftmost? grammar tree
  let alternative ←
    site.alternatives[gene.toNat % site.alternatives.length]?
  return (site.path, replaceAt alternative site.path tree)

/-- Rewrite a number of times with the genes of a word from a time on.  The
places come in order, with the last tree. -/
def rewriteMany? (grammar : Grammar) (word : Nat → Gene) :
    (count time : Nat) → Expression → Option (List Path × Expression)
  | 0, _, tree => some ([], tree)
  | count + 1, time, tree => do
      let (path, next) ← rewrite? grammar (word time) tree
      let (paths, last) ← rewriteMany? grammar word count (time + 1) next
      return (path :: paths, last)

/-- Number of earlier rewrites that a place lies within. -/
def ancestors (earlier : List Path) (path : Path) : Nat :=
  earlier.countP fun outer => outer.isPrefixOf path

/-- Every rewrite lies within fewer earlier ones than a bound. -/
def Shallow (bound : Nat) (paths : List Path) : Prop :=
  ∀ earlier path later, paths = earlier ++ path :: later →
    ancestors earlier path < bound

def Filled (grammar : Grammar) : Prop :=
  ∀ name alternatives, grammar.alternatives? name = some alternatives →
    alternatives ≠ []

theorem filled_of_rules {grammar : Grammar}
    (nonempty : ∀ rule ∈ grammar.rules, rule.2 ≠ []) : Filled grammar := by
  intro name alternatives found
  obtain ⟨before, after, split, _⟩ := List.lookup_eq_some_iff.mp found
  exact nonempty (name, alternatives) (by simp [split])

/-! ### Places -/

def Beyond (index : Nat) (path : Path) : Prop :=
  ∃ item rest, path = item :: rest ∧ index ≤ item

theorem Beyond.mono {low high : Nat} {path : Path} (le : low ≤ high)
    (beyond : Beyond high path) : Beyond low path := by
  obtain ⟨item, rest, shape, bound⟩ := beyond
  exact ⟨item, rest, shape, Nat.le_trans le bound⟩

theorem beyond_inItem (index : Nat) (paths : List Path) :
    ∀ path ∈ paths.map (index :: ·), Beyond index path := by
  intro path member
  obtain ⟨inner, _, rfl⟩ := List.mem_map.mp member
  exact ⟨index, inner, rfl, Nat.le_refl _⟩

theorem beyond_append {index : Nat} {first second : List Path}
    (inFirst : ∀ path ∈ first, Beyond index path)
    (inSecond : ∀ path ∈ second, Beyond (index + 1) path) :
    ∀ path ∈ first ++ second, Beyond index path := by
  intro path member
  rcases List.mem_append.mp member with early | late
  · exact inFirst path early
  · exact (inSecond path late).mono (Nat.le_succ index)

/-- A place in one item lies outside all places in later ones. -/
theorem Beyond.not_prefix {index : Nat} {path inner : Path}
    (beyond : Beyond (index + 1) path) :
    (index :: inner).isPrefixOf path = false := by
  obtain ⟨item, rest, rfl, bound⟩ := beyond
  have different : index ≠ item := by omega
  simp [List.isPrefixOf, different]

theorem ancestors_append (first second : List Path) (path : Path) :
    ancestors (first ++ second) path =
      ancestors first path + ancestors second path :=
  List.countP_append

theorem ancestors_root_cons (paths : List Path) (path : Path) :
    ancestors ([] :: paths) path = ancestors paths path + 1 := by
  simp [ancestors]

@[simp] theorem ancestors_inItem (index : Nat) (paths : List Path)
    (path : Path) :
    ancestors (paths.map (index :: ·)) (index :: path) =
      ancestors paths path := by
  simp [ancestors, List.countP_map, Function.comp_def, List.isPrefixOf]

theorem ancestors_eq_zero {index : Nat} {path : Path}
    (beyond : Beyond (index + 1) path) (paths : List Path) :
    ancestors (paths.map (index :: ·)) path = 0 := by
  rw [ancestors, List.countP_map, List.countP_eq_zero]
  intro inner _
  simp [beyond.not_prefix]

theorem shallow_iff {bound : Nat} {paths : List Path} :
    Shallow bound paths ↔ ∀ index : Fin paths.length,
      ancestors (paths.take index) paths[index] < bound := by
  constructor
  · intro shallow index
    apply shallow _ _ (paths.drop (index + 1))
    simp
  · rintro below earlier path later rfl
    simpa using below ⟨earlier.length, by simp⟩

instance (bound : Nat) (paths : List Path) :
    Decidable (Shallow bound paths) :=
  decidable_of_iff _ shallow_iff.symm

theorem shallow_nil (bound : Nat) : Shallow bound [] := by
  intro earlier path later split
  simp at split

theorem Shallow.inItem {bound : Nat} {paths : List Path} (index : Nat)
    (shallow : Shallow bound paths) :
    Shallow bound (paths.map (index :: ·)) := by
  intro earlier path later split
  obtain ⟨front, back, rfl, rfl, backSplit⟩ :=
    List.map_eq_append_iff.mp split
  obtain ⟨inner, rest, rfl, rfl, rfl⟩ := List.map_eq_cons_iff.mp backSplit
  rw [ancestors_inItem]
  exact shallow front inner rest rfl

theorem Shallow.root_cons {bound : Nat} {paths : List Path}
    (shallow : Shallow bound paths) : Shallow (bound + 1) ([] :: paths) := by
  intro earlier path later split
  cases earlier with
  | nil => exact Nat.succ_pos bound
  | cons first earlier =>
      obtain ⟨rfl, rfl⟩ := List.cons.inj split
      rw [ancestors_root_cons]
      exact Nat.succ_lt_succ (shallow earlier path later rfl)

theorem Shallow.append {bound index : Nat} {inner later : List Path}
    (first : Shallow bound inner) (second : Shallow bound later)
    (beyond : ∀ path ∈ later, Beyond (index + 1) path) :
    Shallow bound (inner.map (index :: ·) ++ later) := by
  intro earlier path rest split
  rcases List.append_eq_append_iff.mp split with
    ⟨between, rfl, laterSplit⟩ | ⟨between, innerSplit, restSplit⟩
  · have outside : Beyond (index + 1) path :=
      beyond path (by simp [laterSplit])
    rw [ancestors_append, ancestors_eq_zero outside, Nat.zero_add]
    exact second between path rest laterSplit
  · cases between with
    | nil =>
        have laterSplit : later = path :: rest := restSplit.symm
        have outside : Beyond (index + 1) path :=
          beyond path (by simp [laterSplit])
        rw [List.append_nil] at innerSplit
        rw [← innerSplit, ancestors_eq_zero outside]
        exact second [] path rest laterSplit
    | cons next between =>
        obtain ⟨rfl, rfl⟩ := List.cons.inj restSplit
        exact first.inItem index earlier path between innerSplit

/-! ### One rewrite -/

def Closed (grammar : Grammar) (tree : Expression) : Prop :=
  leftmost? grammar tree = none

theorem closed_atom {grammar : Grammar} {value : Value}
    (names : ¬ grammar.isNonTerminal (.atom value) = true) :
    Closed grammar (.atom value) := by
  rw [Grammar.isNonTerminal, Option.not_isSome_iff_eq_none] at names
  rw [Closed, leftmost?, names, Option.map_none]

/-- A symbol that names a rule expands to the alternative that rewriting
puts in its place. -/
theorem Filled.expand {grammar : Grammar} (filled : Filled grammar)
    {value : Value} (names : grammar.isNonTerminal (.atom value) = true)
    (gene : Gene) :
    ∃ alternatives alternative,
      leftmost? grammar (.atom value) = some ⟨[], alternatives⟩ ∧
        alternatives[gene.toNat % alternatives.length]? = some alternative ∧
        grammar.expand (.atom value) gene = .ok alternative := by
  obtain ⟨⟨name, alternatives⟩, found⟩ := Option.isSome_iff_exists.mp names
  have nonempty : alternatives ≠ [] := by
    cases value with
    | symbol name =>
        obtain ⟨_, listed, equality⟩ := Option.map_eq_some_iff.mp found
        cases equality
        exact filled name alternatives listed
    | integer | float | bool => cases found
  have inside : gene.toNat % alternatives.length < alternatives.length :=
    Nat.mod_lt _ (List.length_pos_iff.mpr nonempty)
  refine ⟨alternatives, alternatives[gene.toNat % alternatives.length],
    ?_, List.getElem?_eq_getElem inside, ?_⟩
  · rw [leftmost?, found, Option.map_some]
  · simp only [Grammar.expand, found, List.getElem?_eq_getElem inside]

theorem leftmost?_list (grammar : Grammar) (items : List Expression) :
    leftmost? grammar (.list items) = leftmostItem? grammar 0 items := by
  rw [leftmost?]

theorem leftmostItem?_append {grammar : Grammar} {done : List Expression}
    (closed : ∀ item ∈ done, Closed grammar item) (index : Nat)
    (rest : List Expression) :
    leftmostItem? grammar index (done ++ rest) =
      leftmostItem? grammar (index + done.length) rest := by
  induction done generalizing index with
  | nil => rfl
  | cons item done induction =>
      have itemClosed : leftmost? grammar item = none :=
        closed item List.mem_cons_self
      have restClosed : ∀ other ∈ done, Closed grammar other := by
        intro other member
        exact closed other (List.mem_cons_of_mem item member)
      rw [List.cons_append, leftmostItem?, itemClosed]
      simp only [List.length_cons]
      rw [induction restClosed, Nat.add_right_comm, Nat.add_assoc]

theorem closed_list {grammar : Grammar} {items : List Expression}
    (closed : ∀ item ∈ items, Closed grammar item) :
    Closed grammar (.list items) := by
  have none := leftmostItem?_append closed 0 []
  rw [List.append_nil] at none
  rw [Closed, leftmost?_list, none, leftmostItem?]

theorem leftmost?_item {grammar : Grammar} {done : List Expression}
    (closed : ∀ item ∈ done, Closed grammar item) {item : Expression}
    {site : Site} (found : leftmost? grammar item = some site)
    (rest : List Expression) :
    leftmost? grammar (.list (done ++ item :: rest)) =
      some (site.inItem done.length) := by
  rw [leftmost?_list, leftmostItem?_append closed, Nat.zero_add,
    leftmostItem?, found]

theorem replaceAt_item (new : Expression) (path : Path)
    (done : List Expression) (item : Expression) (rest : List Expression) :
    replaceAt new (done.length :: path) (.list (done ++ item :: rest)) =
      .list (done ++ replaceAt new path item :: rest) := by
  rw [replaceAt, List.modify_eq_take_drop, List.take_left, List.drop_left,
    List.modifyHead_cons]

theorem rewrite?_eq_some_iff {grammar : Grammar} {gene : Gene}
    {tree next : Expression} {path : Path} :
    rewrite? grammar gene tree = some (path, next) ↔
      ∃ site alternative, leftmost? grammar tree = some site ∧
        site.alternatives[gene.toNat % site.alternatives.length]? =
          some alternative ∧
        path = site.path ∧ next = replaceAt alternative site.path tree := by
  simp only [rewrite?, Option.bind_eq_bind, Option.bind_eq_some_iff,
    Option.pure_def, Option.some.injEq, Prod.mk.injEq]
  constructor
  · rintro ⟨site, found, alternative, chosen, rfl, rfl⟩
    exact ⟨site, alternative, found, chosen, rfl, rfl⟩
  · rintro ⟨site, alternative, found, chosen, rfl, rfl⟩
    exact ⟨site, found, alternative, chosen, rfl, rfl⟩

theorem rewrite?_eq_none {grammar : Grammar} {tree : Expression}
    (closed : Closed grammar tree) (gene : Gene) :
    rewrite? grammar gene tree = none := by
  rw [rewrite?, show leftmost? grammar tree = none from closed]
  rfl

/-- A rewrite of an item rewrites the list, if all items before are closed. -/
theorem rewrite?_item {grammar : Grammar} {gene : Gene}
    {done : List Expression} (closed : ∀ item ∈ done, Closed grammar item)
    {item next : Expression} {path : Path}
    (rewritten : rewrite? grammar gene item = some (path, next))
    (rest : List Expression) :
    rewrite? grammar gene (.list (done ++ item :: rest)) =
      some (done.length :: path, .list (done ++ next :: rest)) := by
  obtain ⟨site, alternative, found, chosen, rfl, rfl⟩ :=
    rewrite?_eq_some_iff.mp rewritten
  exact rewrite?_eq_some_iff.mpr ⟨site.inItem done.length, alternative,
    leftmost?_item closed found rest, chosen, rfl,
    (replaceAt_item alternative site.path done item rest).symm⟩

/-! ### Many rewrites -/

theorem rewriteMany?_succ_eq_some_iff {grammar : Grammar}
    {word : Nat → Gene} {count time : Nat} {tree last : Expression}
    {paths : List Path} :
    rewriteMany? grammar word (count + 1) time tree = some (paths, last) ↔
      ∃ path next rest, rewrite? grammar (word time) tree = some (path, next) ∧
        rewriteMany? grammar word count (time + 1) next = some (rest, last) ∧
        paths = path :: rest := by
  simp only [rewriteMany?, Option.bind_eq_bind, Option.bind_eq_some_iff,
    Option.pure_def, Option.some.injEq, Prod.mk.injEq, Prod.exists]
  constructor
  · rintro ⟨path, next, first, rest, reached, later, rfl, rfl⟩
    exact ⟨path, next, rest, first, later, rfl⟩
  · rintro ⟨path, next, rest, first, later, rfl⟩
    exact ⟨path, next, first, rest, last, later, rfl, rfl⟩

theorem rewriteMany?_add {grammar : Grammar} {word : Nat → Gene}
    {first second time : Nat} {tree middle last : Expression}
    {paths later : List Path}
    (reached :
      rewriteMany? grammar word first time tree = some (paths, middle))
    (continued : rewriteMany? grammar word second (time + first) middle =
      some (later, last)) :
    rewriteMany? grammar word (first + second) time tree =
      some (paths ++ later, last) := by
  induction first generalizing time tree paths with
  | zero =>
      cases reached
      rw [Nat.zero_add]
      exact continued
  | succ first induction =>
      obtain ⟨path, next, rest, step, more, rfl⟩ :=
        rewriteMany?_succ_eq_some_iff.mp reached
      rw [Nat.add_right_comm]
      refine rewriteMany?_succ_eq_some_iff.mpr
        ⟨path, next, rest ++ later, step, ?_, rfl⟩
      apply induction more
      rwa [Nat.add_right_comm, Nat.add_assoc] at *

theorem rewriteMany?_split {grammar : Grammar} {word : Nat → Gene}
    {first second time : Nat} {tree last : Expression} {paths : List Path}
    (reached : rewriteMany? grammar word (first + second) time tree =
      some (paths, last)) :
    ∃ earlier later middle,
      rewriteMany? grammar word first time tree = some (earlier, middle) ∧
        rewriteMany? grammar word second (time + first) middle =
          some (later, last) ∧
        paths = earlier ++ later := by
  induction first generalizing time tree paths with
  | zero =>
      rw [Nat.zero_add] at reached
      exact ⟨[], paths, tree, rfl, reached, rfl⟩
  | succ first induction =>
      rw [Nat.add_right_comm] at reached
      obtain ⟨path, next, rest, step, more, rfl⟩ :=
        rewriteMany?_succ_eq_some_iff.mp reached
      obtain ⟨earlier, later, middle, before, after, rfl⟩ := induction more
      refine ⟨path :: earlier, later, middle, ?_, ?_, rfl⟩
      · exact rewriteMany?_succ_eq_some_iff.mpr
          ⟨path, next, earlier, step, before, rfl⟩
      · rwa [Nat.add_right_comm, Nat.add_assoc] at after

theorem rewriteMany?_item {grammar : Grammar} {word : Nat → Gene}
    {done : List Expression} (closed : ∀ item ∈ done, Closed grammar item)
    {count time : Nat} {item last : Expression} {paths : List Path}
    (reached :
      rewriteMany? grammar word count time item = some (paths, last))
    (rest : List Expression) :
    rewriteMany? grammar word count time (.list (done ++ item :: rest)) =
      some (paths.map (done.length :: ·), .list (done ++ last :: rest)) := by
  induction count generalizing time item paths with
  | zero =>
      cases reached
      rfl
  | succ count induction =>
      obtain ⟨path, next, later, step, more, rfl⟩ :=
        rewriteMany?_succ_eq_some_iff.mp reached
      exact rewriteMany?_succ_eq_some_iff.mpr
        ⟨_, _, _, rewrite?_item closed step rest, induction more, rfl⟩

/-! ### Rewriting within limits -/

/-- So many rewrites of a tree, made from a time on, lead to another tree.
They end within the budget, and each lies within fewer of the others than the
bound. -/
structure Reaches (grammar : Grammar) (word : Nat → Gene)
    (budget bound time : Nat) (tree : Expression) (count : Nat)
    (paths : List Path) (last : Expression) : Prop where
  rewritten : rewriteMany? grammar word count time tree = some (paths, last)
  shallow : Shallow bound paths
  affordable : time + count ≤ budget

namespace Reaches

variable {grammar : Grammar} {word : Nat → Gene}
  {budget bound time count : Nat} {tree item last : Expression}
  {paths : List Path} {done : List Expression}

theorem refl (affordable : time ≤ budget) (tree : Expression) :
    Reaches grammar word budget bound time tree 0 [] tree :=
  ⟨rfl, shallow_nil bound, affordable⟩

theorem inItem (closed : ∀ item ∈ done, Closed grammar item)
    (reached : Reaches grammar word budget bound time item count paths last)
    (rest : List Expression) :
    Reaches grammar word budget bound time (.list (done ++ item :: rest))
      count (paths.map (done.length :: ·)) (.list (done ++ last :: rest)) :=
  ⟨rewriteMany?_item closed reached.rewritten rest,
    reached.shallow.inItem done.length, reached.affordable⟩

theorem thenLater {index later : Nat} {final : Expression}
    {others : List Path} (shallow : Shallow bound paths)
    (reached : Reaches grammar word budget bound time tree count
      (paths.map (index :: ·)) last)
    (continued : Reaches grammar word budget bound (time + count) last later
      others final)
    (beyond : ∀ path ∈ others, Beyond (index + 1) path) :
    Reaches grammar word budget bound time tree (count + later)
      (paths.map (index :: ·) ++ others) final := by
  refine ⟨rewriteMany?_add reached.rewritten continued.rewritten,
    shallow.append continued.shallow beyond, ?_⟩
  rw [← Nat.add_assoc]
  exact continued.affordable

/-- The production of a symbol lies one rewrite deeper than the symbol. -/
theorem ofProduction {production : Expression}
    (step : rewrite? grammar (word time) tree = some ([], production))
    (reached : Reaches grammar word budget bound (time + 1) production count
      paths last) :
    Reaches grammar word budget (bound + 1) time tree (count + 1)
      ([] :: paths) last := by
  refine ⟨rewriteMany?_succ_eq_some_iff.mpr
    ⟨[], production, paths, step, reached.rewritten, rfl⟩,
    reached.shallow.root_cons, ?_⟩
  have affordable := reached.affordable
  omega

end Reaches

/-- Rewriting the start symbol with the genes of a chromosome, read cyclically,
ends after so many rewrites with a tree.  No limit is broken on the way. -/
def Ends (grammar : Grammar) (limits : DerivationLimits) (genes : Chromosome)
    (count : Nat) (tree : Expression) : Prop :=
  Closed grammar tree ∧
    ∃ paths, Reaches grammar genes.cyclic limits.maxExpansions limits.depth 0
      (.symbol grammar.startName) count paths tree

theorem rewriteMany?_succ_eq_none {grammar : Grammar} {word : Nat → Gene}
    {tree : Expression} (closed : Closed grammar tree) (count time : Nat) :
    rewriteMany? grammar word (count + 1) time tree = none := by
  rw [rewriteMany?, rewrite?_eq_none closed]
  rfl

theorem count_le_of_closed {grammar : Grammar} {word : Nat → Gene}
    {count more time : Nat} {tree closedTree last : Expression}
    {paths others : List Path} (closed : Closed grammar closedTree)
    (ended : rewriteMany? grammar word count time tree =
      some (paths, closedTree))
    (reached : rewriteMany? grammar word more time tree =
      some (others, last)) : more ≤ count := by
  by_contra longer
  obtain ⟨extra, rfl⟩ := Nat.exists_eq_add_of_lt (Nat.not_le.mp longer)
  rw [Nat.add_assoc] at reached
  obtain ⟨_, _, middle, before, after, _⟩ := rewriteMany?_split reached
  cases ended.symm.trans before
  rw [rewriteMany?_succ_eq_none closed] at after
  cases after

theorem Ends.unique {grammar : Grammar} {limits : DerivationLimits}
    {genes : Chromosome} {first second : Nat} {left right : Expression}
    (leftEnds : Ends grammar limits genes first left)
    (rightEnds : Ends grammar limits genes second right) :
    first = second ∧ left = right := by
  obtain ⟨leftClosed, leftPaths, leftReached⟩ := leftEnds
  obtain ⟨rightClosed, rightPaths, rightReached⟩ := rightEnds
  obtain rfl : first = second := Nat.le_antisymm
    (count_le_of_closed rightClosed rightReached.rewritten
      leftReached.rewritten)
    (count_le_of_closed leftClosed leftReached.rewritten
      rightReached.rewritten)
  cases leftReached.rewritten.symm.trans rightReached.rewritten
  exact ⟨rfl, rfl⟩

/-- A rewriting that leads to a symbol whose own rewrite breaks a limit does
not end within the limits. -/
theorem not_ends_of_broken {grammar : Grammar} {limits : DerivationLimits}
    {genes : Chromosome} {count : Nat} {paths : List Path}
    {last : Expression} {site : Site}
    (reached : rewriteMany? grammar genes.cyclic count 0
      (.symbol grammar.startName) = some (paths, last))
    (opened : leftmost? grammar last = some site)
    (exceeded : limits.depth ≤ ancestors paths site.path ∨
      limits.maxExpansions ≤ count) {total : Nat} {tree : Expression} :
    ¬ Ends grammar limits genes total tree := by
  rintro ⟨closed, allPaths, ended⟩
  have atMost := count_le_of_closed closed ended.rewritten reached
  obtain ⟨remaining, rfl⟩ := Nat.exists_eq_add_of_le atMost
  obtain ⟨_, later, middle, before, after, rfl⟩ :=
    rewriteMany?_split ended.rewritten
  cases reached.symm.trans before
  cases remaining with
  | zero =>
      cases after
      rw [Closed, opened] at closed
      cases closed
  | succ remaining =>
      -- The next rewrite is that of the site.
      obtain ⟨path, next, rest, step, _, rfl⟩ :=
        rewriteMany?_succ_eq_some_iff.mp after
      obtain ⟨found, _, stillOpened, _, rfl, _⟩ :=
        rewrite?_eq_some_iff.mp step
      cases opened.symm.trans stillOpened
      have shallow := ended.shallow paths site.path rest rfl
      have affordable := ended.affordable
      omega

end Rewriting

end GrammaticalEvolution
