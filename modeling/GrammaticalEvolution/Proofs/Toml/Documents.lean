import GrammaticalEvolution.Toml.Document
import Mathlib.Data.List.TakeWhile

/-!
# Plain TOML documents

A plain document is a sequence of tables with bare headers, and in each of them
lines with a bare key and a bare value.  It is read as those tables with those
values, as long as no name stands twice in one place.
-/

namespace GrammaticalEvolution.Toml

/-- A character of a bare key. -/
def isKey (char : Char) : Bool :=
  char.isAlphanum || char == '_' || char == '-'

/-- A name that needs no quotation marks. -/
structure BareName (name : List Char) : Prop where
  filled : name ≠ []
  plain : ∀ char ∈ name, isKey char = true

instance (name : List Char) : Decidable (BareName name) :=
  decidable_of_iff (name ≠ [] ∧ name.all isKey = true)
    ⟨fun bare => ⟨bare.1, List.all_eq_true.mp bare.2⟩,
      fun bare => ⟨bare.filled, List.all_eq_true.mpr bare.plain⟩⟩

/-- The text of a bare value. -/
structure BareValue (token : List Char) (value : Setting) : Prop where
  filled : token ≠ []
  plain : ∀ char ∈ token, isBare char = true
  read : readBare? token = some value

theorem ne_of_isKey {char other : Char} (key : isKey char = true)
    (mark : isKey other = false) : char ≠ other := by
  rintro rfl
  exact nomatch key.symm.trans mark

theorem ne_of_isBare {char other : Char} (bare : isBare char = true)
    (mark : isBare other = false) : char ≠ other := by
  rintro rfl
  exact nomatch bare.symm.trans mark

/-! ### White space -/

section Space

variable {first : Char} {rest : List Char}

theorem skipIndent_cons (solid : isIndent first = false) :
    skipIndent (first :: rest) = first :: rest :=
  List.dropWhile_cons_of_neg (by rw [solid]; decide)

/-- A character that starts neither white space, nor a comment, nor a line
end. -/
structure Solid (first : Char) : Prop where
  indent : isIndent first = false
  comment : first ≠ '#'
  lineFeed : first ≠ '\n'
  carriageReturn : first ≠ '\r'

theorem Solid.of_isKey (key : isKey first = true) : Solid first where
  indent := by
    rw [isIndent, Bool.or_eq_false_iff, beq_eq_false_iff_ne,
      beq_eq_false_iff_ne]
    exact ⟨ne_of_isKey key rfl, ne_of_isKey key rfl⟩
  comment := ne_of_isKey key rfl
  lineFeed := ne_of_isKey key rfl
  carriageReturn := ne_of_isKey key rfl

theorem lineEnd?_solid (solid : Solid first) :
    lineEnd? (first :: rest) = none := by
  unfold lineEnd?
  split
  · next same => exact absurd (List.head_eq_of_cons_eq same) solid.lineFeed
  · next same =>
      exact absurd (List.head_eq_of_cons_eq same) solid.carriageReturn
  · rfl

theorem finishLine?_solid (solid : Solid first) :
    finishLine? (first :: rest) = none := by
  unfold finishLine?
  rw [skipIndent_cons solid.indent]
  dsimp only
  split
  · next same =>
      split at same
      · next hash => exact absurd (List.head_eq_of_cons_eq hash) solid.comment
      · exact nomatch same
  · split
    · next hash => exact absurd (List.head_eq_of_cons_eq hash) solid.comment
    · exact lineEnd?_solid solid

theorem skipTrivia_solid (solid : Solid first) :
    skipTrivia (first :: rest) = first :: rest := by
  unfold skipTrivia
  rw [List.length_cons, skipLines, skipIndent_cons solid.indent]
  simp only [finishLine?_solid solid]

end Space

/-! ### Names and values -/

section Parts

variable {name token rest : List Char} {value : Setting}

theorem BareName.head (bare : BareName name) :
    ∃ first later, name = first :: later ∧ isKey first = true := by
  cases name with
  | nil => exact absurd rfl bare.filled
  | cons first later =>
      exact ⟨first, later, rfl, bare.plain first List.mem_cons_self⟩

theorem BareValue.head (bare : BareValue token value) :
    ∃ first later, token = first :: later ∧ isBare first = true := by
  cases token with
  | nil => exact absurd rfl bare.filled
  | cons first later =>
      exact ⟨first, later, rfl, bare.plain first List.mem_cons_self⟩

theorem takeWhile_stops {keep : Char → Bool} {next : Char}
    (kept : ∀ char ∈ token, keep char = true) (stops : keep next = false)
    (rest : List Char) : (token ++ next :: rest).takeWhile keep = token := by
  rw [List.takeWhile_append_of_pos kept,
    List.takeWhile_cons_of_neg (by rw [stops]; decide), List.append_nil]

theorem dropWhile_stops {keep : Char → Bool} {next : Char}
    (kept : ∀ char ∈ token, keep char = true) (stops : keep next = false)
    (rest : List Char) :
    (token ++ next :: rest).dropWhile keep = next :: rest := by
  rw [List.dropWhile_append_of_pos kept,
    List.dropWhile_cons_of_neg (by rw [stops]; decide)]

/-- A bare key ends where its characters end. -/
theorem readKey?_bare (bare : BareName name) {next : Char}
    (stops : isKey next = false)
    (noDot : ∀ later, skipIndent (next :: rest) ≠ '.' :: later) :
    readKey? (name ++ next :: rest) =
      some ([String.ofList name], skipIndent (next :: rest)) := by
  have taken := takeWhile_stops bare.plain stops rest
  have dropped := dropWhile_stops bare.plain stops rest
  obtain ⟨first, later, written, key⟩ := bare.head
  have start : skipIndent (name ++ next :: rest) = name ++ next :: rest := by
    rw [written]
    exact skipIndent_cons (Solid.of_isKey key).indent
  have part : readKeyPart? (name ++ next :: rest) =
      some (String.ofList name, next :: rest) := by
    have named : (fun char : Char =>
        char.isAlphanum || char == '_' || char == '-') = isKey := rfl
    unfold readKeyPart?
    simp only [named, taken, dropped]
    rw [written]
  unfold readKey? mostParts readKeyWithin?
  rw [start, part, Option.bind_eq_bind, Option.bind_some]
  dsimp only
  split
  · next dot => exact absurd dot (noDot _)
  · rfl

/-- A bare value ends at the line end. -/
theorem takeBare?_bare (bare : BareValue token value) :
    takeBare? (token ++ '\n' :: rest) = some (value, '\n' :: rest) := by
  have stops : isBare '\n' = false := rfl
  unfold takeBare?
  rw [takeWhile_stops bare.plain stops rest,
    dropWhile_stops bare.plain stops rest]
  change (readBare? token).bind (fun value => some (value, '\n' :: rest)) = _
  rw [bare.read]
  rfl

theorem readValue?_bare (bare : BareValue token value) :
    readValue? mostNested (token ++ '\n' :: rest) =
      some (value, '\n' :: rest) := by
  obtain ⟨first, later, written, start⟩ := bare.head
  rw [← takeBare?_bare bare, written]
  change readValueWith? (some (readValue? 79)) (first :: (later ++ _)) = _
  unfold readValueWith?
  split
  · next same =>
      exact absurd (List.head_eq_of_cons_eq same) (ne_of_isBare start rfl)
  · next same =>
      exact absurd (List.head_eq_of_cons_eq same) (ne_of_isBare start rfl)
  · next same =>
      exact absurd (List.head_eq_of_cons_eq same) (ne_of_isBare start rfl)
  · next same =>
      exact absurd (List.head_eq_of_cons_eq same) (ne_of_isBare start rfl)
  · rfl

end Parts

/-! ### Statements -/

/-- A line with a bare key and a bare value. -/
structure Line where
  name : String
  token : List Char
  value : Setting

/-- A table with a bare header. -/
structure Table where
  header : String
  lines : List Line

namespace Line

structure Bare (line : Line) : Prop where
  name : BareName line.name.toList
  value : BareValue line.token line.value

def chars (line : Line) : List Char :=
  line.name.toList ++ ' ' :: '=' :: ' ' :: (line.token ++ ['\n'])

def statement (line : Line) : Statement :=
  .pair [line.name] line.value

end Line

namespace Table

structure Bare (table : Table) : Prop where
  header : BareName table.header.toList
  lines : ∀ line ∈ table.lines, line.Bare

def chars (table : Table) : List Char :=
  '[' :: (table.header.toList ++ ']' :: '\n' :: table.lines.flatMap Line.chars)

def statements (table : Table) : List Statement :=
  .table [table.header] :: table.lines.map Line.statement

end Table

section Statements

variable {line : Line} {table : Table} {rest : List Char}

theorem isIndent_of_isBare {char : Char} (bare : isBare char = true) :
    isIndent char = false := by
  rw [isIndent, Bool.or_eq_false_iff, beq_eq_false_iff_ne, beq_eq_false_iff_ne]
  exact ⟨ne_of_isBare bare rfl, ne_of_isBare bare rfl⟩

theorem readPair?_line (bare : line.Bare) (rest : List Char) :
    readPair? skipIndent (readValue? mostNested) (line.chars ++ rest) =
      some (([line.name], line.value), '\n' :: rest) := by
  have text : line.chars ++ rest = line.name.toList ++ ' ' :: '=' :: ' ' ::
      (line.token ++ '\n' :: rest) := by
    simp [Line.chars]
  have key : readKey? (line.chars ++ rest) =
      some ([line.name], '=' :: ' ' :: (line.token ++ '\n' :: rest)) := by
    have noDot : ∀ dotted, skipIndent (' ' :: '=' :: ' ' ::
        (line.token ++ '\n' :: rest)) ≠ '.' :: dotted := fun dotted same =>
      absurd (List.head_eq_of_cons_eq same) (by decide : '=' ≠ '.')
    rw [text, readKey?_bare bare.name rfl noDot, String.ofList_toList]
    rfl
  obtain ⟨start, tail, token, plain⟩ := bare.value.head
  have value : skipIndent (' ' :: (line.token ++ '\n' :: rest)) =
      line.token ++ '\n' :: rest := by
    rw [token]
    exact skipIndent_cons (isIndent_of_isBare plain)
  unfold readPair?
  rw [key]
  change (readValue? mostNested
    (skipIndent (' ' :: (line.token ++ '\n' :: rest)))).bind _ = _
  rw [value, readValue?_bare bare.value]
  rfl

theorem readStatement?_line (bare : line.Bare) (rest : List Char) :
    readStatement? (line.chars ++ rest) =
      some (line.statement, '\n' :: rest) := by
  have pair := readPair?_line bare rest
  obtain ⟨first, later, written, key⟩ := bare.name.head
  have start : line.chars ++ rest = first :: (later ++ ' ' :: '=' :: ' ' ::
      (line.token ++ ['\n']) ++ rest) := by
    rw [Line.chars, written]
    rfl
  rw [start] at pair ⊢
  unfold readStatement?
  split
  · next same =>
      exact absurd (List.head_eq_of_cons_eq same) (ne_of_isKey key rfl)
  · next same =>
      exact absurd (List.head_eq_of_cons_eq same) (ne_of_isKey key rfl)
  · rw [pair]
    rfl

theorem readStatement?_header (bare : BareName table.header.toList) :
    readStatement? ('[' :: (table.header.toList ++ ']' :: rest)) =
      some (.table [table.header], rest) := by
  have key : readKey? (table.header.toList ++ ']' :: rest) =
      some ([table.header], ']' :: rest) := by
    have noDot : ∀ dotted, skipIndent (']' :: rest) ≠ '.' :: dotted :=
      fun dotted same =>
        absurd (List.head_eq_of_cons_eq same) (by decide : ']' ≠ '.')
    rw [readKey?_bare bare rfl noDot, String.ofList_toList]
    rfl
  obtain ⟨first, later, written, plain⟩ := bare.head
  unfold readStatement?
  split
  · next same =>
      rw [written] at same
      injection same with _ second
      exact absurd (List.head_eq_of_cons_eq second) (ne_of_isKey plain rfl)
  · next same =>
      injection same with _ header
      rw [← header, key]
      rfl
  · next other => exact absurd rfl (other _)

/-! ### Documents -/

theorem readStatements?_cons {first : Char} {chars later : List Char}
    {statement : Statement} (solid : Solid first) (most : Nat)
    (read : readStatement? (first :: chars) = some (statement, '\n' :: later)) :
    readStatements? (most + 1) (first :: chars) =
      (readStatements? most later).map (statement :: ·) := by
  rw [readStatements?, skipTrivia_solid solid]
  dsimp only
  rw [read]
  exact Option.map_eq_bind.symm

theorem readStatements?_line (bare : line.Bare) (most : Nat) :
    readStatements? (most + 1) (line.chars ++ rest) =
      (readStatements? most rest).map (line.statement :: ·) := by
  have read := readStatement?_line bare rest
  obtain ⟨first, later, written, key⟩ := bare.name.head
  rw [Line.chars, written] at read ⊢
  exact readStatements?_cons (.of_isKey key) most read

theorem readStatements?_lines {lines : List Line}
    (bare : ∀ line ∈ lines, line.Bare) (most : Nat) :
    readStatements? (lines.length + most) (lines.flatMap Line.chars ++ rest) =
      (readStatements? most rest).map (lines.map Line.statement ++ ·) := by
  induction lines with
  | nil =>
      rw [List.length_nil, Nat.zero_add]
      exact Option.map_id'.symm
  | cons line lines induction =>
      obtain ⟨first, others⟩ := List.forall_mem_cons.mp bare
      rw [List.length_cons, Nat.add_right_comm, List.flatMap_cons,
        List.append_assoc, readStatements?_line first, induction others,
        Option.map_map]
      rfl

theorem readStatements?_table (bare : table.Bare) (most : Nat)
    (rest : List Char) :
    readStatements? (table.lines.length + most + 1) (table.chars ++ rest) =
      (readStatements? most rest).map (table.statements ++ ·) := by
  have solid : Solid '[' := ⟨rfl, by decide, by decide, by decide⟩
  have text : table.chars ++ rest = '[' :: (table.header.toList ++
      ']' :: '\n' :: (table.lines.flatMap Line.chars ++ rest)) := by
    simp [Table.chars]
  rw [text, readStatements?_cons solid _ (readStatement?_header bare.header),
    readStatements?_lines bare.lines, Option.map_map]
  rfl

end Statements

/-- The text of tables with an empty line between them. -/
def documentChars : List Table → List Char
  | [] => []
  | [table] => table.chars
  | table :: rest => table.chars ++ '\n' :: documentChars rest

/-- Statements of tables. -/
def statementCount : List Table → Nat
  | [] => 0
  | table :: rest => table.lines.length + 1 + statementCount rest

theorem readStatements?_document {tables : List Table}
    (bare : ∀ table ∈ tables, table.Bare) (most : Nat) :
    readStatements? (statementCount tables + (most + 1))
        (documentChars tables) =
      some (tables.flatMap Table.statements) := by
  fun_induction documentChars tables with
  | case1 =>
      rw [statementCount, Nat.zero_add]
      rfl
  | case2 table =>
      have only := readStatements?_table (bare table List.mem_cons_self)
        (most + 1) []
      have fuel : statementCount [table] + (most + 1) =
          table.lines.length + (most + 1) + 1 := by
        simp only [statementCount]
        omega
      rw [List.append_nil] at only
      rw [fuel, only, List.flatMap_singleton]
      exact congrArg some (List.append_nil _)
  | case3 table rest _ induction =>
      obtain ⟨first, others⟩ := List.forall_mem_cons.mp bare
      have fuel : statementCount (table :: rest) + (most + 1) =
          table.lines.length + (statementCount rest + (most + 1)) + 1 := by
        rw [statementCount]
        omega
      rw [fuel, readStatements?_table first]
      change (readStatements? (statementCount rest + most + 1)
        (documentChars rest)).map _ = _
      rw [Nat.add_assoc, induction others]
      rfl

theorem length_lines_le (lines : List Line) :
    lines.length ≤ (lines.flatMap Line.chars).length := by
  induction lines with
  | nil => exact Nat.le_refl 0
  | cons line lines induction =>
      simp only [List.flatMap_cons, List.length_append, List.length_cons,
        Line.chars]
      omega

theorem length_table_le (table : Table) :
    table.lines.length + 1 ≤ table.chars.length := by
  have lines := length_lines_le table.lines
  simp only [Table.chars, List.length_cons, List.length_append]
  omega

theorem statementCount_le (tables : List Table) :
    statementCount tables ≤ (documentChars tables).length := by
  fun_induction documentChars tables with
  | case1 => exact Nat.le_refl 0
  | case2 table => exact length_table_le table
  | case3 table rest _ induction =>
      have first := length_table_le table
      rw [statementCount, List.length_append, List.length_cons]
      omega

/-! ### Tables -/

def Line.node (line : Line) : String × Node :=
  (line.name, .value line.value)

def Table.node (table : Table) : String × Node :=
  (table.header, .table .header (table.lines.map Line.node))

/-- A name that no entry has. -/
def Fresh (name : String) (nodes : Nodes) : Prop :=
  ∀ entry ∈ nodes, entry.1 ≠ name

section Nodes

variable {name key : String} {before entries : Nodes} {value : Setting}

theorem lookup_fresh (fresh : Fresh name before) (rest : Nodes) :
    (before ++ rest).lookup name = rest.lookup name := by
  have none : before.lookup name = none :=
    List.lookup_eq_none_iff.mpr fun entry member =>
      bne_iff_ne.mpr (fresh entry member).symm
  rw [List.lookup_append, none, Option.none_or]

theorem put_fresh (fresh : Fresh name before) (node : Node) (rest : Nodes) :
    put name node (before ++ rest) = before ++ put name node rest := by
  induction before with
  | nil => rfl
  | cons entry before induction =>
      obtain ⟨other, others⟩ := List.forall_mem_cons.mp fresh
      rw [List.cons_append, put, if_neg other, induction others,
        List.cons_append]

theorem apply?_table (fresh : Fresh name before) (header : List String) :
    Progress.apply? ⟨before, header⟩ (.table [name]) =
      some ⟨before ++ [(name, .table .header [])], [name]⟩ := by
  have opened : openTable name before =
      some (before ++ [(name, .table .header [])]) := by
    have missing := lookup_fresh fresh []
    have added := put_fresh fresh (.table .header []) []
    rw [List.append_nil] at missing added
    rw [openTable, missing, added]
    rfl
  change (openTable name before).bind
    (fun nodes => some (Progress.mk nodes [name])) = _
  rw [opened]
  rfl

theorem apply?_pair (fresh : Fresh name before) (keyFresh : Fresh key entries) :
    Progress.apply? ⟨before ++ [(name, .table .header entries)], [name]⟩
        (.pair [key] value) =
      some ⟨before ++
        [(name, .table .header (entries ++ [(key, .value value)]))],
        [name]⟩ := by
  have defined : define value [key] entries =
      some (entries ++ [(key, .value value)]) := by
    have missing := lookup_fresh keyFresh []
    have added := put_fresh keyFresh (.value value) []
    rw [List.append_nil] at missing added
    rw [define, missing, added]
    rfl
  have found : (before ++ [(name, Node.table .header entries)]).lookup name =
      some (.table .header entries) := by
    rw [lookup_fresh fresh, List.lookup_cons_self]
  have changed : changeAt (define value [key]) [name]
      (before ++ [(name, .table .header entries)]) =
        some (before ++
          [(name, .table .header (entries ++ [(key, .value value)]))]) := by
    rw [changeAt, found]
    change (define value [key] entries).bind (fun inner => some
      (put name (.table .header inner) (before ++ _))) = _
    rw [defined, Option.bind_some, put_fresh fresh, put, if_pos rfl]
  change (changeAt (define value [key]) [name] _).bind
    (fun nodes => some (Progress.mk nodes [name])) = _
  rw [changed]
  rfl

theorem foldlM_lines {lines : List Line} (fresh : Fresh name before)
    (distinct : (entries.map Prod.fst ++ lines.map Line.name).Nodup) :
    (lines.map Line.statement).foldlM Progress.apply?
        ⟨before ++ [(name, .table .header entries)], [name]⟩ =
      some ⟨before ++
        [(name, .table .header (entries ++ lines.map Line.node))], [name]⟩ := by
  induction lines generalizing entries with
  | nil =>
      rw [List.map_nil, List.map_nil, List.append_nil]
      rfl
  | cons line lines induction =>
      have keyFresh : Fresh line.name entries := fun entry member =>
        (List.nodup_append.mp distinct).2.2 _ (List.mem_map_of_mem member) _
          List.mem_cons_self
      have later : ((entries ++ [line.node]).map Prod.fst ++
          lines.map Line.name).Nodup := by
        simpa [Line.node] using distinct
      rw [List.map_cons, List.foldlM_cons, Line.statement,
        apply?_pair fresh keyFresh, Option.bind_eq_bind, Option.bind_some]
      have done := induction later
      simpa [Line.node] using done

theorem foldlM_table {table : Table} (fresh : Fresh table.header before)
    (distinct : (table.lines.map Line.name).Nodup) (header : List String) :
    table.statements.foldlM Progress.apply? ⟨before, header⟩ =
      some ⟨before ++ [table.node], [table.header]⟩ := by
  rw [Table.statements, List.foldlM_cons, apply?_table fresh,
    Option.bind_eq_bind, Option.bind_some]
  exact foldlM_lines fresh distinct

theorem foldlM_tables {tables : List Table} (before : Nodes)
    (distinct : (before.map Prod.fst ++ tables.map Table.header).Nodup)
    (lines : ∀ table ∈ tables, (table.lines.map Line.name).Nodup)
    (header : List String) :
    ∃ last, (tables.flatMap Table.statements).foldlM Progress.apply?
        ⟨before, header⟩ = some ⟨before ++ tables.map Table.node, last⟩ := by
  induction tables generalizing before header with
  | nil =>
      refine ⟨header, ?_⟩
      rw [List.map_nil, List.append_nil]
      rfl
  | cons table tables induction =>
      obtain ⟨first, others⟩ := List.forall_mem_cons.mp lines
      have fresh : Fresh table.header before := fun entry member =>
        (List.nodup_append.mp distinct).2.2 _ (List.mem_map_of_mem member) _
          List.mem_cons_self
      have later : ((before ++ [table.node]).map Prod.fst ++
          tables.map Table.header).Nodup := by
        simpa [Table.node] using distinct
      obtain ⟨last, done⟩ := induction _ later others [table.header]
      refine ⟨last, ?_⟩
      rw [List.flatMap_cons, List.foldlM_append, foldlM_table fresh first,
        Option.bind_eq_bind, Option.bind_some, done, List.map_cons,
        List.append_assoc]
      rfl

end Nodes

def Line.entry (line : Line) : String × Setting :=
  (line.name, line.value)

def Table.entry (table : Table) : String × Setting :=
  (table.header, .table (table.lines.map Line.entry))

theorem finishEntries_lines (lines : List Line) :
    finishEntries (lines.map Line.node) = lines.map Line.entry := by
  induction lines with
  | nil => rfl
  | cons line lines induction =>
      rw [List.map_cons, finishEntries, induction]
      rfl

theorem finishEntries_tables (tables : List Table) :
    finishEntries (tables.map Table.node) = tables.map Table.entry := by
  induction tables with
  | nil => rfl
  | cons table tables induction =>
      rw [List.map_cons, finishEntries, induction, Table.node, finishEntry,
        Node.finish, finishEntries_lines]
      rfl

theorem dropMark_document (tables : List Table) :
    dropMark (documentChars tables) = documentChars tables := by
  fun_cases documentChars tables <;> rfl

/-- A plain document is read as the tables that it was written from. -/
theorem read?_document {tables : List Table}
    (bare : ∀ table ∈ tables, table.Bare)
    (distinct : (tables.map Table.header).Nodup)
    (lines : ∀ table ∈ tables, (table.lines.map Line.name).Nodup) :
    read? (documentChars tables) = some (tables.map Table.entry) := by
  obtain ⟨most, fuel⟩ := Nat.exists_eq_add_of_le (statementCount_le tables)
  obtain ⟨last, built⟩ := foldlM_tables [] distinct lines []
  unfold read?
  dsimp only
  rw [dropMark_document, fuel, Nat.add_assoc, readStatements?_document bare,
    Option.bind_eq_bind, Option.bind_some, built]
  exact congrArg some (finishEntries_tables tables)

end GrammaticalEvolution.Toml
