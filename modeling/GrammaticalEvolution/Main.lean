import GrammaticalEvolution.Demonstration
import GrammaticalEvolution.Journal.Filter

/-!
# Command line

Runs the demonstration with the settings file named by the first argument, and
writes what it notes to standard error.
-/

open GrammaticalEvolution

def readText? (name : String) : IO (Option String) := do
  try
    return some (← IO.FS.readFile name)
  catch _ =>
    return none

def readVariables : IO Environment := do
  let text := (← readText? "/proc/self/environ").getD ""
  return (text.splitOn "\x00").map fun entry =>
    match entry.splitOn "=" with
    | name :: rest => (name, "=".intercalate rest)
    | [] => ("", "")

def readEntropy : IO SeededWords := do
  let bytes ← IO.getRandomBytes 8
  let seed := bytes.toList.foldl
    (fun total byte => total * 256 + byte.toNat) 0
  return .ofSeed seed.toUInt64

def main (arguments : List String) : IO UInt32 := do
  let filter := JournalFilter.ofText ((← IO.getEnv "RUST_LOG").getD "")
  let names := arguments.take 1 |>.flatMap fun name =>
    name :: (Demonstration.withEnding? name).toList
  let texts ← names.mapM readText?
  let files (name : String) : Option String :=
    ((names.zip texts).lookup name).join
  let outcome := Demonstration.run arguments files (← readVariables) .asGiven
    (← readEntropy)
  for entry in outcome.journal.filter filter.passes do
    IO.eprintln s!"[{entry.level.name} {entry.target}] {entry.message}"
  match outcome.value with
  | .ok () => return 0
  | .error reason =>
      IO.eprintln ("Error: " ++ reason)
      return 1
