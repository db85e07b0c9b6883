import GrammaticalEvolution.Json.Lines
import GrammaticalEvolution.Proofs.Json.Numbers
import GrammaticalEvolution.Proofs.TextLines
import Mathlib.Data.List.Forall2

/-!
# One stored expression and all of them

Both ways to read stored expressions see a text only through its filled lines
without the white space at their ends.  The first fault on them is the one that
is reported when all are read; if there is none, each expression is where it is
found when it is read alone.
-/

namespace GrammaticalEvolution.Json

open Text

/-! ### A list read item by item -/

section Items

variable {α β ε : Type} {action : α → Except ε β} {items : List α}

theorem forall₂_of_mapM {results : List β}
    (done : items.mapM action = .ok results) :
    List.Forall₂ (fun item result => action item = .ok result)
      items results := by
  induction items generalizing results with
  | nil =>
      obtain rfl := Except.ok.inj done
      exact .nil
  | cons item items induction =>
      rw [List.mapM_cons] at done
      obtain ⟨result, first, rest⟩ := ok_of_bind done
      obtain ⟨others, later, same⟩ := ok_of_bind rest
      obtain rfl := Except.ok.inj same
      exact .cons first (induction later)

/-- The first fault among the items is the fault of the list. -/
theorem exists_first_of_mapM {fault : ε}
    (failed : items.mapM action = .error fault) :
    ∃ before item after, items = before ++ item :: after ∧
      action item = .error fault ∧
      ∀ earlier ∈ before, ∃ result, action earlier = .ok result := by
  induction items with
  | nil => exact nomatch failed
  | cons item items induction =>
      rw [List.mapM_cons] at failed
      rcases error_of_bind failed with first | ⟨result, first, rest⟩
      · exact ⟨[], item, items, rfl, first, nofun⟩
      rcases error_of_bind rest with later | ⟨_, _, impossible⟩
      · obtain ⟨before, last, after, rfl, found, fine⟩ := induction later
        refine ⟨item :: before, last, after, rfl, found, ?_⟩
        exact List.forall_mem_cons.mpr ⟨⟨result, first⟩, fine⟩
      · exact nomatch impossible

end Items

/-! ### Texts seen through their filled lines -/

theorem readLine_trim (line : List Char) :
    readLine (trim line) = readLine line := by
  unfold readLine read
  rw [trim_trim]

theorem readAll_eq (chars : List Char) :
    readAll chars = (cores (lines chars)).mapM readLine := by
  have same : readLine ∘ trim = readLine := funext readLine_trim
  rw [cores, List.mapM_map, same]
  rfl

theorem length_filledLines (chars : List Char) :
    (filledLines chars).length = (lines chars).countP isFilled :=
  List.countP_eq_length_filter.symm

theorem readOne_eq (chars : List Char) (index : Nat) :
    readOne chars index =
      match (cores (lines chars))[index]? with
      | some line => readLine line
      | none => .error (.missing index (cores (lines chars)).length) := by
  simp only [readOne, cores, filledLines, List.getElem?_map, List.length_map]
  cases ((lines chars).filter isFilled)[index]? with
  | none => rfl
  | some line => exact (readLine_trim line).symm

section Readers

variable {chars : List Char} {index : Nat}

theorem readOne_of_lt (inside : index < (filledLines chars).length) :
    readOne chars index = readLine (filledLines chars)[index] := by
  simp only [readOne, List.getElem?_eq_getElem inside]

theorem readOne_of_le (beyond : (filledLines chars).length ≤ index) :
    readOne chars index =
      .error (.missing index (filledLines chars).length) := by
  simp only [readOne, List.getElem?_eq_none beyond]

theorem readLine_eq_error {line : List Char} {fault : LineFault}
    (failed : readLine line = .error fault) :
    ∃ reason, fault = .unreadable reason := by
  unfold readLine at failed
  cases outcome : read line with
  | ok expression =>
      rw [outcome] at failed
      exact nomatch failed
  | error reason =>
      rw [outcome] at failed
      exact ⟨reason, (Except.error.inj failed).symm⟩

/-- What all lines hold is found line by line. -/
theorem readOne_of_readAll {expressions : List Expression}
    (done : readAll chars = .ok expressions) :
    expressions.length = (filledLines chars).length ∧
      ∀ (index : Nat) (inside : index < expressions.length),
        readOne chars index = .ok expressions[index] := by
  obtain ⟨count, each⟩ :=
    List.forall₂_iff_get.mp (forall₂_of_mapM done)
  refine ⟨count.symm, fun index inside => ?_⟩
  rw [readOne_of_lt (count ▸ inside)]
  exact each index (count ▸ inside) inside

/-- The fault of all lines is the one of the first line that has any. -/
theorem first_of_readAll {fault : LineFault}
    (failed : readAll chars = .error fault) :
    ∃ index < (filledLines chars).length,
      readOne chars index = .error fault ∧
      (∃ reason, fault = .unreadable reason) ∧
      ∀ earlier < index, ∃ expression,
        readOne chars earlier = .ok expression := by
  obtain ⟨before, line, after, parts, found, fine⟩ :=
    exists_first_of_mapM failed
  have inside : before.length < (filledLines chars).length := by
    simp [parts]
  refine ⟨before.length, inside, ?_, readLine_eq_error found, ?_⟩
  · rw [readOne_of_lt inside]
    simpa [parts] using found
  · intro earlier less
    rw [readOne_of_lt (less.trans inside)]
    simpa [parts, less] using fine before[earlier] (List.getElem_mem less)

end Readers

/-- Either all expressions are read, and each alone is the same, or the first
that cannot be read alone gives the fault.  An index with no filled line is
reported with their number whatever is on them.  White space around lines and
in lines of its own makes no difference, nor does the kind of line end. -/
theorem readers_agree (chars : List Char) :
    let count := (lines chars).countP isFilled
    ((∃ expressions, readAll chars = .ok expressions) ↔
      ∀ index < count, ∃ expression,
        readOne chars index = .ok expression) ∧
    (∀ expressions, readAll chars = .ok expressions →
      expressions.length = count ∧
      ∀ (index : Nat) (inside : index < expressions.length),
        readOne chars index = .ok expressions[index]) ∧
    (∀ fault, readAll chars = .error fault →
      ∃ index < count, readOne chars index = .error fault ∧
        (∃ reason, fault = .unreadable reason) ∧
        ∀ earlier < index, ∃ expression,
          readOne chars earlier = .ok expression) ∧
    (∀ index, count ≤ index →
      readOne chars index = .error (.missing index count)) ∧
    ∀ other, Relation.EqvGen Respaced chars other →
      readAll other = readAll chars ∧
      ∀ index, readOne other index = readOne chars index := by
  intro count
  have stored : (filledLines chars).length = count := length_filledLines chars
  rw [← stored]
  refine ⟨⟨?_, ?_⟩, fun _ => readOne_of_readAll, fun _ => first_of_readAll,
    fun _ => readOne_of_le, ?_⟩
  · rintro ⟨expressions, done⟩ index inside
    obtain ⟨same, each⟩ := readOne_of_readAll done
    exact ⟨_, each index (same ▸ inside)⟩
  · intro each
    cases outcome : readAll chars with
    | ok expressions => exact ⟨expressions, rfl⟩
    | error fault =>
        obtain ⟨index, inside, failed, -⟩ := first_of_readAll outcome
        obtain ⟨expression, done⟩ := each index inside
        exact nomatch failed.symm.trans done
  · intro other respaced
    have same := cores_eq_of_respaced respaced
    refine ⟨?_, fun index => ?_⟩
    · rw [readAll_eq, readAll_eq, same]
    · rw [readOne_eq, readOne_eq, same]

/-- Two stored expressions with a line of white space between them. -/
def spaced : List Char := "[\"add\", 2, 2]\n\t\nfalse".toList

/-- After them one that is broken off. -/
def brokenOff : List Char := spaced ++ "\n[2,".toList

theorem spaced_and_brokenOff :
    readOne spaced 1 = .ok (.atom (.bool false)) ∧
    readOne spaced 2 = .error (.missing 2 2) ∧
    readAll ("[\"add\", 2, 2]\r\n".toList ++ "\t\nfalse".toList) =
      readAll spaced ∧
    ∃ index < 3, readOne brokenOff index = .error (.unreadable .truncated) ∧
      ∀ earlier < index, ∃ expression,
        readOne brokenOff earlier = .ok expression := by
  obtain ⟨_, each, _, beyond, respaced⟩ := readers_agree spaced
  obtain ⟨_, _, first, _⟩ := readers_agree brokenOff
  have done : readAll spaced =
      .ok [.list [.symbol "add", .integer 2, .integer 2],
        .atom (.bool false)] := by decide +kernel
  have failed : readAll brokenOff = .error (.unreadable .truncated) := by
    decide +kernel
  refine ⟨(each _ done).2 1 (by decide), beyond 2 (by decide), ?_, ?_⟩
  · exact (respaced _ (.rel _ _ (.lineEnd "[\"add\", 2, 2]".toList
      "\t\nfalse".toList))).1
  · obtain ⟨index, inside, found, -, fine⟩ := first _ failed
    exact ⟨index, inside, found, fine⟩

end GrammaticalEvolution.Json
