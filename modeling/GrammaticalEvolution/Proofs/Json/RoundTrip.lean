import GrammaticalEvolution.Json.Lines
import GrammaticalEvolution.Proofs.DerivedTrees
import GrammaticalEvolution.Proofs.Json.Leaves

/-!
# Written expressions read back

In a compact text a comma, a bracket or the end of the text follows each value,
and an array is read item by item up to there.  If no leaf is a float and there
is room for all brackets, every item is read back.  If an item leaves anything
else, no array goes on from it; so whatever the leaves, reading gets past a
bracket only if there is room for all brackets within.
-/

namespace GrammaticalEvolution.Json

open Decimal

/-! ### Arrays -/

section Arrays

variable {readItem : ValueReader} {chars rest : List Char}
  {item : Option Expression}

theorem readArray_of_starts (starts : Starts chars) :
    readArray readItem chars = do
      let (items, rest) ← readItems readItem (chars.length + 1) chars
      return (items.map .list, rest) := by
  obtain ⟨first, head, solid, notEnd⟩ := starts
  unfold readArray
  rw [skipSpace_of_head head solid]
  split
  · exact absurd (Option.some.inj head).symm notEnd
  · exact nomatch head
  · rfl

theorem readItems_last (read : readItem chars = .ok (item, ']' :: rest))
    (steps : Nat) :
    readItems readItem (steps + 1) chars =
      .ok (item.map ([·]), rest) := by
  rw [readItems, read]
  rfl

theorem readItems_more {following : List Char}
    (read : readItem chars = .ok (item, ',' :: following))
    (starts : Starts following) (steps : Nat) :
    readItems readItem (steps + 1) chars = do
      let (items, rest) ← readItems readItem steps following
      return (item.bind fun item => items.map (item :: ·), rest) := by
  obtain ⟨first, head, solid, notEnd⟩ := starts
  rw [readItems, read]
  dsimp only [bind, Except.bind]
  rw [skipSpace_of_head rfl (by decide)]
  simp only [skipSpace_of_head head solid]
  split
  · exact absurd (Option.some.inj head).symm notEnd
  · rfl

/-- A comma or the closing bracket follows each item that is read. -/
theorem readItems_eq_ok {steps : Nat} {items : Option (List Expression)}
    {left : List Char}
    (done : readItems readItem steps chars = .ok (items, left)) :
    ∃ fewer item after, steps = fewer + 1 ∧
      readItem chars = .ok (item, after) ∧
      (skipSpace after = ']' :: left ∨
        ∃ following others, skipSpace after = ',' :: following ∧
          readItems readItem fewer (skipSpace following) =
            .ok (others, left)) := by
  cases steps with
  | zero => exact nomatch done
  | succ fewer =>
      rw [readItems] at done
      obtain ⟨⟨item, after⟩, read, done⟩ := ok_of_bind done
      refine ⟨fewer, item, after, rfl, read, ?_⟩
      dsimp only at done
      split at done
      · next closed =>
          obtain ⟨_, rfl⟩ := Prod.mk.inj (Except.ok.inj done)
          exact .inl closed
      · next following more =>
          split at done
          · exact nomatch done
          · obtain ⟨⟨others, last⟩, readOthers, same⟩ := ok_of_bind done
            obtain ⟨_, rfl⟩ := Prod.mk.inj (Except.ok.inj same)
            exact .inr ⟨following, others, more, readOthers⟩
      · exact absurd done unexpected_ne_ok

/-- If an item is followed by a mark of its array, nothing stands between. -/
theorem mark_after_item {close mark : Char} {after following : List Char}
    (solid : isSpace close = false) (plain : isNumberChar mark = false)
    (left : after = close :: rest ∨ InNumber after)
    (skipped : skipSpace after = mark :: following) :
    mark = close ∧ following = rest := by
  rcases left with rfl | ⟨first, head, number⟩
  · rw [skipSpace_of_head rfl solid] at skipped
    obtain ⟨rfl, rfl⟩ := List.cons.inj skipped
    exact ⟨rfl, rfl⟩
  · rw [skipSpace_of_head head (not_isSpace_of_isNumberChar number)] at skipped
    rw [skipped] at head
    obtain rfl := Option.some.inj head
    exact absurd number (by simp [plain])

end Arrays

/-! ### Expressions -/

theorem readValue_eq (room : Nat) :
    ∃ inner, readValue room = readValueWith inner := by
  cases room <;> exact ⟨_, rfl⟩

theorem readValue_array (room : Nat) (chars : List Char) :
    readValue (room + 1) ('[' :: chars) = readArray (readValue room) chars :=
  rfl

theorem write_list (items : List Expression) (rest : List Char) :
    write (.list items) ++ rest =
      '[' :: (writeItems items ++ ']' :: rest) := by
  simp [write]

theorem writeItems_more (item next : Expression) (items : List Expression)
    (rest : List Char) :
    writeItems (item :: next :: items) ++ rest =
      write item ++ ',' :: (writeItems (next :: items) ++ rest) := by
  simp [writeItems]

theorem length_le_writeItems (items : List Expression) :
    items.length ≤ (writeItems items).length + 1 := by
  match items with
  | [] => exact Nat.zero_le _
  | [item] => exact Nat.le_add_left 1 _
  | item :: next :: items =>
      have others := length_le_writeItems (next :: items)
      rw [writeItems, List.length_append, List.length_cons]
      simp only [List.length_cons] at others ⊢
      omega

mutual

/-- If there is room for its brackets, an expression without floats is read
back. -/
theorem readValue_write (expression : Expression)
    (floatFree : ∀ number, .float number ∉ expression.leaves) {room : Nat}
    (fits : expression.nesting ≤ room) {rest : List Char}
    (closes : Closes rest) :
    readValue room (write expression ++ rest) =
      .ok (some expression, rest) := by
  cases expression with
  | atom value =>
      obtain ⟨inner, whole⟩ := readValue_eq room
      rw [whole]
      refine readValueWith_leaf ?_ closes
      rintro number rfl
      exact floatFree number List.mem_cons_self
  | list items =>
      rw [Expression.nesting] at fits
      obtain ⟨room, rfl⟩ :=
        Nat.exists_eq_add_of_le' (Nat.le_of_add_right_le fits)
      have itemsFit : Expression.nestingList items ≤ room := by omega
      rw [write_list, readValue_array]
      by_cases empty : items = []
      · subst empty
        rfl
      have starts := (starts_writeItems empty).append (']' :: rest)
      have steps := length_le_writeItems items
      rw [readArray_of_starts starts, readItems_writeItems items empty
        floatFree itemsFit ?_ rest]
      · rfl
      · rw [List.length_append, List.length_cons]
        omega

theorem readItems_writeItems (items : List Expression) (filled : items ≠ [])
    (floatFree : ∀ number, .float number ∉ Expression.leavesList items)
    {room : Nat} (fits : Expression.nestingList items ≤ room) {steps : Nat}
    (enough : items.length ≤ steps) (rest : List Char) :
    readItems (readValue room) steps (writeItems items ++ ']' :: rest) =
      .ok (some items, rest) := by
  have positive : 0 < items.length := List.length_pos_of_ne_nil filled
  obtain ⟨steps, rfl⟩ := Nat.exists_eq_add_one_of_ne_zero
    (Nat.ne_of_gt (Nat.lt_of_lt_of_le positive enough))
  match items, filled with
  | [item], _ =>
      rw [Expression.leavesList, Expression.leavesList,
        List.append_nil] at floatFree
      have itemFits : item.nesting ≤ room :=
        Nat.le_trans (Nat.le_max_left _ _) fits
      exact readItems_last
        (readValue_write item floatFree itemFits (.bracket rest)) steps
  | item :: next :: others, _ =>
      have itemFree : ∀ number, .float number ∉ item.leaves :=
        fun number member => floatFree number (List.mem_append_left _ member)
      have othersFree :
          ∀ number, .float number ∉ Expression.leavesList (next :: others) :=
        fun number member => floatFree number (List.mem_append_right _ member)
      obtain ⟨itemFits, othersFit⟩ := Nat.max_le.mp fits
      have starts :=
        (starts_writeItems (List.cons_ne_nil next others)).append (']' :: rest)
      rw [writeItems_more, readItems_more
        (readValue_write item itemFree itemFits (.comma _)) starts,
        readItems_writeItems (next :: others) (List.cons_ne_nil _ _) othersFree
          othersFit (Nat.le_of_succ_le_succ enough) rest]
      rfl

end

mutual

/-- Reading gets past a written expression only if there is room for its
brackets, and then stops at its end or within a number. -/
theorem readValue_write_eq_ok (expression : Expression) {room : Nat}
    {rest : List Char} (closes : Closes rest) {item : Option Expression}
    {left : List Char}
    (done : readValue room (write expression ++ rest) = .ok (item, left)) :
    expression.nesting ≤ room ∧ (left = rest ∨ InNumber left) := by
  cases expression with
  | atom value =>
      obtain ⟨inner, whole⟩ := readValue_eq room
      rw [whole] at done
      exact ⟨Nat.zero_le room, left_of_readValueWith_leaf closes done⟩
  | list items =>
      cases room with
      | zero => exact nomatch write_list items rest ▸ done
      | succ room =>
          rw [write_list, readValue_array] at done
          rw [Expression.nesting]
          by_cases empty : items = []
          · subst empty
            obtain ⟨_, rfl⟩ := Prod.mk.inj (Except.ok.inj done)
            exact ⟨Nat.le_add_left 1 room, .inl rfl⟩
          have starts := (starts_writeItems empty).append (']' :: rest)
          rw [readArray_of_starts starts] at done
          obtain ⟨⟨read, after⟩, itemsRead, same⟩ := ok_of_bind done
          obtain ⟨_, rfl⟩ := Prod.mk.inj (Except.ok.inj same)
          obtain ⟨fits, rfl⟩ := readItems_writeItems_eq_ok items empty itemsRead
          exact ⟨by omega, .inl rfl⟩

theorem readItems_writeItems_eq_ok (items : List Expression)
    (filled : items ≠ []) {room steps : Nat} {rest left : List Char}
    {read : Option (List Expression)}
    (done : readItems (readValue room) steps (writeItems items ++ ']' :: rest) =
      .ok (read, left)) :
    Expression.nestingList items ≤ room ∧ left = rest := by
  obtain ⟨fewer, item, after, rfl, read, next⟩ := readItems_eq_ok done
  match items, filled with
  | [single], _ =>
      obtain ⟨fits, behind⟩ := readValue_write_eq_ok single (.bracket rest) read
      rw [Expression.nestingList, Expression.nestingList, Nat.max_zero]
      rcases next with closed | ⟨following, _, comma, _⟩
      · exact ⟨fits, (mark_after_item (by decide) (by decide) behind closed).2⟩
      · have mixed := (mark_after_item (by decide) (by decide) behind comma).1
        exact absurd mixed (by decide)
  | single :: second :: others, _ =>
      rw [writeItems_more] at read
      obtain ⟨fits, behind⟩ := readValue_write_eq_ok single (.comma _) read
      rcases next with closed | ⟨following, _, comma, readOthers⟩
      · have mixed := (mark_after_item (by decide) (by decide) behind closed).1
        exact absurd mixed (by decide)
      · obtain ⟨_, rfl⟩ := mark_after_item (by decide) (by decide) behind comma
        have filled : second :: others ≠ [] := List.cons_ne_nil second others
        obtain ⟨first, head, solid, _⟩ :=
          (starts_writeItems filled).append (']' :: rest)
        rw [skipSpace_of_head head solid] at readOthers
        obtain ⟨othersFit, ended⟩ :=
          readItems_writeItems_eq_ok (second :: others) filled readOthers
        exact ⟨Nat.max_le.mpr ⟨fits, othersFit⟩, ended⟩

end

theorem tight_write (expression : Expression) : Tight (write expression) := by
  cases expression with
  | atom value => exact tight_writeValue value
  | list items => exact .between _ (by decide) (by decide)

/-- Reading undoes writing for all expressions without floats that nest at most
127 lists, whatever their symbols are spelled like; and of expressions that
nest more lists, with or without floats, none is read from its text. -/
theorem reading_undoes_writing (expression : Expression) :
    ((∀ number, .float number ∉ expression.leaves) →
      expression.nesting ≤ 127 →
      readLine (write expression) = .ok expression) ∧
    (128 ≤ expression.nesting →
      ∃ fault, readLine (write expression) = .error (.unreadable fault)) := by
  have whole : write expression ++ [] = write expression := List.append_nil _
  unfold readLine read
  rw [(tight_write expression).trim_eq]
  constructor
  · intro floatFree fits
    have done := readValue_write expression floatFree fits .nothing
    rw [whole] at done
    unfold openBrackets
    rw [done]
    rfl
  · intro deep
    cases outcome : readValue openBrackets (write expression) with
    | error fault => exact ⟨fault, rfl⟩
    | ok done =>
        obtain ⟨item, left⟩ := done
        rw [← whole] at outcome
        obtain ⟨fits, _⟩ := readValue_write_eq_ok expression .nothing outcome
        unfold openBrackets at fits
        omega

/-- An expression within so many lists of one item. -/
def nested (expression : Expression) : Nat → Expression
  | 0 => expression
  | count + 1 => .list [nested expression count]

theorem nesting_nested (expression : Expression) (count : Nat) :
    (nested expression count).nesting = count + expression.nesting := by
  induction count with
  | zero => exact (Nat.zero_add _).symm
  | succ count induction =>
      rw [nested, Expression.nesting, Expression.nestingList,
        Expression.nestingList, induction]
      omega

theorem leaves_nested (expression : Expression) (count : Nat) :
    (nested expression count).leaves = expression.leaves := by
  induction count with
  | zero => rfl
  | succ count induction =>
      rw [nested, Expression.leaves, Expression.leavesList,
        Expression.leavesList, List.append_nil, induction]

/-- Symbols that look like other values, and the ends of the integers. -/
def lookalikes : Expression :=
  .list [.symbol "12", .symbol "true", .symbol "\"\\\n\x01]é", .list [],
    .integer Int64.minValue, .integer Int64.maxValue, .atom (.bool true)]

theorem lookalikes_undone :
    readLine (write (nested lookalikes 125)) = .ok (nested lookalikes 125) ∧
    ∃ fault, readLine (write (nested (.atom (.float 0.5)) 128)) =
      .error (.unreadable fault) := by
  constructor
  · refine (reading_undoes_writing _).1 ?_ ?_
    · rw [leaves_nested]
      simp [lookalikes, Expression.leaves, Expression.leavesList,
        Expression.symbol, Expression.integer]
    · rw [nesting_nested]
      decide
  · refine (reading_undoes_writing _).2 ?_
    rw [nesting_nested]
    decide

end GrammaticalEvolution.Json
