import GrammaticalEvolution.Text.Blank
import Mathlib.Data.List.TakeWhile
import Mathlib.Logic.Relation

/-!
# White space in lines

Where white space at the ends of lines and lines of nothing else do not count,
the lines of a text can as well be taken to be its pieces between line feeds,
since a carriage return is white space.  White space put in at the start of a
line, or at its end, then joins a piece at one end and may add pieces of white
space; either way nothing that counts is changed.
-/

namespace GrammaticalEvolution.Text

variable {line blank chars before after : List Char}

/-! ### White space at the ends -/

theorem isFilled_blank_append (white : blank.all isBlank) :
    isFilled (blank ++ line) = isFilled line := by
  simp [isFilled, white]

theorem isFilled_append_blank (white : blank.all isBlank) :
    isFilled (line ++ blank) = isFilled line := by
  simp [isFilled, white]

theorem trim_blank_append (white : blank.all isBlank) :
    trim (blank ++ line) = trim line := by
  rw [trim, trim, List.dropWhile_append_of_pos (List.all_eq_true.mp white)]

theorem trim_append_blank (white : blank.all isBlank) :
    trim (line ++ blank) = trim line := by
  have each := List.all_eq_true.mp white
  unfold trim
  rw [List.dropWhile_append]
  split
  next empty =>
    rw [List.isEmpty_iff.mp empty, List.dropWhile_eq_nil_iff.mpr each]
  next =>
    rw [List.reverse_append, List.dropWhile_append_of_pos]
    simpa using each

theorem exists_trim (line : List Char) :
    ∃ left right, left.all isBlank ∧ right.all isBlank ∧
      line = left ++ trim line ++ right := by
  let body := line.dropWhile isBlank
  refine ⟨line.takeWhile isBlank, (body.reverse.takeWhile isBlank).reverse,
    ?_, ?_, ?_⟩
  · exact List.all_takeWhile
  · rw [List.all_reverse]
    exact List.all_takeWhile
  · rw [trim, List.append_assoc, ← List.reverse_append,
      List.takeWhile_append_dropWhile, List.reverse_reverse,
      List.takeWhile_append_dropWhile]

theorem trim_trim (line : List Char) : trim (trim line) = trim line := by
  obtain ⟨left, right, leftWhite, rightWhite, parts⟩ := exists_trim line
  calc
    trim (trim line) = trim (left ++ trim line ++ right) := by
      rw [trim_append_blank rightWhite, trim_blank_append leftWhite]
    _ = trim line := by rw [← parts]

/-! ### Pieces -/

theorem pieces_cons_newline (rest : List Char) :
    pieces ('\n' :: rest) = [] :: pieces rest := by
  rw [pieces, if_pos rfl]

theorem pieces_cons {char : Char} (inside : char ≠ '\n')
    {rest piece : List Char} {others : List (List Char)}
    (found : pieces rest = piece :: others) :
    pieces (char :: rest) = (char :: piece) :: others := by
  rw [pieces, if_neg inside, found]

theorem exists_pieces (chars : List Char) :
    ∃ piece others, pieces chars = piece :: others := by
  induction chars with
  | nil => exact ⟨[], [], rfl⟩
  | cons char rest induction =>
      obtain ⟨piece, others, found⟩ := induction
      by_cases newline : char = '\n'
      · rw [newline, pieces_cons_newline]
        exact ⟨[], pieces rest, rfl⟩
      · exact ⟨char :: piece, others, pieces_cons newline found⟩

/-- Where two texts meet, the last piece of one and the first of the other
become one piece. -/
theorem pieces_append (before after : List Char) :
    ∃ front last first rest,
      pieces before = front ++ [last] ∧ pieces after = first :: rest ∧
      pieces (before ++ after) = front ++ (last ++ first) :: rest := by
  induction before with
  | nil =>
      obtain ⟨first, rest, found⟩ := exists_pieces after
      exact ⟨[], [], first, rest, rfl, found, found⟩
  | cons char before induction =>
      obtain ⟨front, last, first, rest, ends, starts, joined⟩ := induction
      by_cases newline : char = '\n'
      · refine ⟨[] :: front, last, first, rest, ?_, starts, ?_⟩
        · rw [newline, pieces_cons_newline, ends, List.cons_append]
        · rw [newline, List.cons_append, pieces_cons_newline, joined,
            List.cons_append]
      · -- The first piece gets the character, and it may be the last one too.
        cases front with
        | nil =>
            exact ⟨[], char :: last, first, rest, pieces_cons newline ends,
              starts, pieces_cons newline joined⟩
        | cons piece others =>
            exact ⟨(char :: piece) :: others, last, first, rest,
              pieces_cons newline ends, starts, pieces_cons newline joined⟩

/-- The pieces have all characters but the line feeds. -/
theorem flatten_pieces (chars : List Char) :
    (pieces chars).flatten = chars.filter (· ≠ '\n') := by
  induction chars with
  | nil => rfl
  | cons char rest induction =>
      by_cases newline : char = '\n'
      · rw [newline, pieces_cons_newline, List.flatten_cons, induction]
        rfl
      · obtain ⟨piece, others, found⟩ := exists_pieces rest
        rw [found] at induction
        rw [pieces_cons newline found, List.flatten_cons, List.cons_append,
          ← List.flatten_cons, induction,
          List.filter_cons_of_pos (by simpa using newline)]

theorem blank_of_mem_pieces (white : blank.all isBlank) {piece : List Char}
    (member : piece ∈ pieces blank) : piece.all isBlank := by
  refine List.all_eq_true.mpr fun char inside => ?_
  have among := List.mem_flatten_of_mem member inside
  rw [flatten_pieces] at among
  exact List.all_eq_true.mp white char (List.mem_filter.mp among).1

/-! ### What counts of some lines -/

/-- The lines that are not white space alone, without the white space at their
ends. -/
def cores (rows : List (List Char)) : List (List Char) :=
  (rows.filter isFilled).map trim

theorem cores_append (rows others : List (List Char)) :
    cores (rows ++ others) = cores rows ++ cores others := by
  simp [cores]

theorem cores_cons (row : List Char) (rows : List (List Char)) :
    cores (row :: rows) = cores [row] ++ cores rows :=
  cores_append [row] rows

theorem cores_blank {rows : List (List Char)}
    (white : ∀ row ∈ rows, row.all isBlank) : cores rows = [] := by
  have none : rows.filter isFilled = [] := by
    refine List.filter_eq_nil_iff.mpr fun row member => ?_
    simp [isFilled, white row member]
  rw [cores, none, List.map_nil]

theorem cores_congr {row other : List Char}
    (filled : isFilled row = isFilled other) (trimmed : trim row = trim other) :
    cores [row] = cores [other] := by
  simp only [cores, List.filter_cons, filled]
  split
  · exact congrArg (· :: []) trimmed
  · rfl

theorem cores_blank_append (white : blank.all isBlank) :
    cores [blank ++ line] = cores [line] :=
  cores_congr (isFilled_blank_append white) (trim_blank_append white)

theorem cores_append_blank (white : blank.all isBlank) :
    cores [line ++ blank] = cores [line] :=
  cores_congr (isFilled_append_blank white) (trim_append_blank white)

theorem cores_dropReturn (line : List Char) :
    cores [dropReturn line] = cores [line] := by
  unfold dropReturn
  split
  next ended =>
    have white : ['\r'].all isBlank := by decide
    obtain ⟨front, rfl⟩ := List.getLast?_eq_some_iff.mp ended
    rw [List.dropLast_concat, cores_append_blank white]
  next => rfl

theorem cores_map_dropReturn (rows : List (List Char)) :
    cores (rows.map dropReturn) = cores rows := by
  induction rows with
  | nil => rfl
  | cons row rows induction =>
      rw [List.map_cons, cores_cons, cores_dropReturn, induction, ← cores_cons]

theorem cores_lines (chars : List Char) :
    cores (lines chars) = cores (pieces chars) := by
  obtain ⟨front, last, _, _, ends, _, _⟩ := pieces_append chars []
  have tail : cores (if last = [] then [] else [last]) = cores [last] := by
    split
    next empty => rw [empty]; rfl
    next => rfl
  have parts : lines chars =
      front.map dropReturn ++ (if last = [] then [] else [last]) := by
    simp [lines, ends]
  rw [parts, ends, cores_append, cores_map_dropReturn, tail, cores_append]

/-! ### White space put in -/

theorem cores_pieces_newline (before after : List Char) :
    cores (pieces (before ++ '\n' :: after)) =
      cores (pieces before) ++ cores (pieces after) := by
  obtain ⟨front, last, first, rest, ends, starts, joined⟩ :=
    pieces_append before ('\n' :: after)
  obtain ⟨rfl, rfl⟩ := List.cons.inj (pieces_cons_newline after ▸ starts)
  rw [joined, ends, List.append_nil, ← cores_append, List.append_assoc]
  rfl

theorem cores_pieces_blank_append (white : blank.all isBlank)
    (chars : List Char) :
    cores (pieces (blank ++ chars)) = cores (pieces chars) := by
  obtain ⟨front, last, first, rest, ends, starts, joined⟩ :=
    pieces_append blank chars
  have each : ∀ piece ∈ front ++ [last], piece.all isBlank :=
    fun piece member => blank_of_mem_pieces white (ends ▸ member)
  rw [List.forall_mem_append, List.forall_mem_singleton] at each
  rw [joined, starts, cores_append, cores_blank each.1, List.nil_append,
    cores_cons, cores_blank_append each.2, ← cores_cons]

theorem cores_pieces_append_blank (white : blank.all isBlank)
    (chars : List Char) :
    cores (pieces (chars ++ blank)) = cores (pieces chars) := by
  obtain ⟨front, last, first, rest, ends, starts, joined⟩ :=
    pieces_append chars blank
  have each : ∀ piece ∈ first :: rest, piece.all isBlank :=
    fun piece member => blank_of_mem_pieces white (starts ▸ member)
  rw [List.forall_mem_cons] at each
  rw [joined, ends, cores_append, cores_cons, cores_append_blank each.1,
    cores_blank each.2, List.append_nil, ← cores_append]

theorem cores_pieces_blank (white : blank.all isBlank) :
    cores (pieces blank) = [] :=
  cores_blank fun _ => blank_of_mem_pieces white

/-- A line can start after such a text. -/
def AtStart (before : List Char) : Prop :=
  before = [] ∨ ∃ earlier, before = earlier ++ ['\n']

theorem AtStart.cores_eq (start : AtStart before) :
    ∃ earlier, ∀ after, cores (pieces (before ++ after)) =
      earlier ++ cores (pieces after) := by
  rcases start with rfl | ⟨earlier, rfl⟩
  · exact ⟨[], fun after => rfl⟩
  · refine ⟨cores (pieces earlier), fun after => ?_⟩
    rw [← List.append_cons, cores_pieces_newline]

/-- A line can end before such a text. -/
def AtEnd (after : List Char) : Prop :=
  after = [] ∨ ∃ later, after = '\n' :: later ∨ after = '\r' :: '\n' :: later

theorem AtEnd.cores_eq (stop : AtEnd after) :
    ∃ later, ∀ before, cores (pieces (before ++ after)) =
      cores (pieces before) ++ later := by
  rcases stop with rfl | ⟨later, rfl | rfl⟩
  · refine ⟨[], fun before => ?_⟩
    rw [List.append_nil, List.append_nil]
  · exact ⟨cores (pieces later), fun before =>
      cores_pieces_newline before later⟩
  · refine ⟨cores (pieces later), fun before => ?_⟩
    rw [List.append_cons, cores_pieces_newline,
      cores_pieces_append_blank (by decide)]

/-- The second text has more white space than the first: a line of its own,
white space around a line, or a carriage return at the end of a line.  What is
put in may hold line feeds and so be several lines. -/
inductive Respaced : List Char → List Char → Prop where
  | blankLine {before blank : List Char} (start : AtStart before)
      (white : blank.all isBlank) (after : List Char) :
      Respaced (before ++ after) (before ++ blank ++ '\n' :: after)
  | lastLine {blank : List Char} (before : List Char)
      (white : blank.all isBlank) : Respaced before (before ++ '\n' :: blank)
  | surround {before left right after : List Char} (start : AtStart before)
      (leftWhite : left.all isBlank) (line : List Char)
      (rightWhite : right.all isBlank) (stop : AtEnd after) :
      Respaced (before ++ line ++ after)
        (before ++ left ++ line ++ right ++ after)
  | lineEnd (before after : List Char) :
      Respaced (before ++ '\n' :: after) (before ++ '\r' :: '\n' :: after)

theorem Respaced.cores_eq {chars other : List Char}
    (respaced : Respaced chars other) :
    cores (lines other) = cores (lines chars) := by
  rw [cores_lines, cores_lines]
  cases respaced with
  | blankLine start white after =>
      obtain ⟨earlier, unchanged⟩ := start.cores_eq
      rw [List.append_assoc, unchanged, unchanged, cores_pieces_newline,
        cores_pieces_blank white, List.nil_append]
  | lastLine before white =>
      rw [cores_pieces_newline, cores_pieces_blank white, List.append_nil]
  | surround start leftWhite line rightWhite stop =>
      obtain ⟨earlier, front⟩ := start.cores_eq
      obtain ⟨later, back⟩ := stop.cores_eq
      rw [back, back, cores_pieces_append_blank rightWhite, List.append_assoc,
        front, front, cores_pieces_blank_append leftWhite]
  | lineEnd before after =>
      rw [List.append_cons, cores_pieces_newline, cores_pieces_newline,
        cores_pieces_append_blank (by decide)]

theorem cores_eq_of_respaced {chars other : List Char}
    (respaced : Relation.EqvGen Respaced chars other) :
    cores (lines other) = cores (lines chars) := by
  induction respaced with
  | rel _ _ step => exact step.cores_eq
  | refl _ => rfl
  | symm _ _ _ same => exact same.symm
  | trans _ _ _ _ _ first second => exact second.trans first

end GrammaticalEvolution.Text
