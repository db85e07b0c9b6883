import GrammaticalEvolution.Random.Source

/-!
# Scripted words

A list of 64-bit words given in advance serves as a source, from its start
again when it is used up.  A 32-bit draw takes the lower half of a whole word.
-/

namespace GrammaticalEvolution

/-- Words to repeat, and those left of the current repetition. -/
structure ScriptedWords where
  script : List UInt64
  pending : List UInt64
deriving DecidableEq, Repr

namespace ScriptedWords

def ofList (script : List UInt64) : ScriptedWords :=
  ⟨script, script⟩

/-- The next word; an empty script gives zeros. -/
def next (source : ScriptedWords) : UInt64 × ScriptedWords :=
  match source.pending with
  | word :: rest => (word, ⟨source.script, rest⟩)
  | [] =>
      match source.script with
      | word :: rest => (word, ⟨source.script, rest⟩)
      | [] => (0, source)

instance : WordSource ScriptedWords where
  word32 source :=
    let (word, source) := source.next
    (word.toUInt32, source)
  word64 := next

end ScriptedWords

end GrammaticalEvolution
