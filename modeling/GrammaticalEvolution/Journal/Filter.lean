import GrammaticalEvolution.Journal
import GrammaticalEvolution.Text.Blank
import GrammaticalEvolution.Text.Pattern.Reader

/-!
# Filters of journals

A filter is spelt as directives with commas between them: a level for
everything, a target with a level, or a target alone for all of its entries.
For an entry the directive with the longest target that its own starts with
decides.  Without directives only errors pass.  After a slash may follow a
pattern, which must then occur in the message of an entry.
-/

namespace GrammaticalEvolution

/-- Entries up to a level, of targets that start with a text. -/
structure Directive where
  target : Option String
  rank : Nat
deriving DecidableEq, Repr

namespace Directive

/-- The rank of a level, or zero for none, spelt in any case. -/
def rankOf? (word : String) : Option Nat :=
  let upper := word.map Char.toUpper
  if upper = "OFF" then some 0
  else ([Level.error, .warn, .info, .debug, .trace].find?
    (fun level => level.name == upper)).map Level.rank

def ofText? (text : String) : Option Directive :=
  match text.splitOn "=" with
  | [word] =>
      match rankOf? word with
      | some rank => some ⟨none, rank⟩
      | none => some ⟨some word, Level.trace.rank⟩
  | [target, word] =>
      let word := String.ofList (Text.trim word.toList)
      if word.isEmpty then some ⟨some target, Level.trace.rank⟩
      else (rankOf? word).map fun rank => ⟨some target, rank⟩
  | _ => none

def covers (directive : Directive) (target : String) : Bool :=
  match directive.target with
  | some start => start.toList.isPrefixOf target.toList
  | none => true

/-- How closely the directive describes its targets. -/
def width (directive : Directive) : Nat :=
  (directive.target.getD "").utf8ByteSize

end Directive

/-- Directives, those of longer targets first, and the pattern that messages
must show, if any. -/
structure JournalFilter where
  directives : List Directive
  pattern : Option Text.Pattern

namespace JournalFilter

/-- Put a directive in place of the one of the same target, or at the end. -/
def insert (directive : Directive) : List Directive → List Directive
  | [] => [directive]
  | other :: rest =>
      if other.target = directive.target then directive :: rest
      else other :: insert directive rest

/-- The filter of some directives, or of errors alone if there are none. -/
def ofDirectives (directives : List Directive)
    (pattern : Option Text.Pattern) : JournalFilter :=
  match directives.foldl (fun all directive => insert directive all) [] with
  | [] => ⟨[⟨none, Level.error.rank⟩], pattern⟩
  | all =>
      ⟨(all.mergeSort fun left right => left.width ≤ right.width).reverse,
        pattern⟩

/-- The directives that a text spells, with commas between them.  What spells
none does not count. -/
def directivesOf (text : String) : List Directive :=
  let words := (text.splitOn ",").map fun word => Text.trim word.toList
  (words.filter (· ≠ [])).filterMap fun word =>
    Directive.ofText? (String.ofList word)

/-- The filter that a text spells.  What follows a slash counts if it spells a
pattern, and a text with two slashes spells nothing. -/
def ofText (text : String) : JournalFilter :=
  match text.splitOn "/" with
  | [spelt] => ofDirectives (directivesOf spelt) none
  | [spelt, pattern] =>
      ofDirectives (directivesOf spelt) (Text.Pattern.ofText? pattern)
  | _ => ofDirectives [] none

/-- Whether entries of a level and a target pass, if their message does. -/
def admits (filter : JournalFilter) (entry : Entry) : Bool :=
  match filter.directives.find? (·.covers entry.target) with
  | some directive => entry.level.rank ≤ directive.rank
  | none => false

def passes (filter : JournalFilter) (entry : Entry) : Bool :=
  filter.admits entry &&
    filter.pattern.all fun pattern => pattern.occursIn entry.message.toList

end JournalFilter

end GrammaticalEvolution
