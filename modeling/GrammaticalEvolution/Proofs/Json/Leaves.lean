import GrammaticalEvolution.Json.Reader
import GrammaticalEvolution.Proofs.Json.Numbers
import GrammaticalEvolution.Proofs.Json.Strings

/-!
# Leaves in JSON texts

The first character of a written value tells its kind and is neither white
space nor a closing bracket.  A leaf that is no float is read back up to its
end.  The text of a float may be refused or read in part, and then what is left
starts within a number.
-/

namespace GrammaticalEvolution.Json

open Decimal Text

/-! ### White space -/

theorem not_isBlank_of_isNumberChar {char : Char}
    (mark : isNumberChar char = true) : isBlank char = false := by
  have all : ∀ code ∈ blankCodes, isNumberChar (Char.ofNat code) = false := by
    decide
  by_contra blank
  have inside : char.toNat ∈ blankCodes := by
    simpa [isBlank] using blank
  have unmarked := all char.toNat inside
  rw [Char.ofNat_toNat, mark] at unmarked
  exact nomatch unmarked

theorem not_isSpace_of_isNumberChar {char : Char}
    (mark : isNumberChar char = true) : isSpace char = false := by
  by_contra space
  simp only [isSpace, Bool.not_eq_false, Bool.or_eq_true, beq_iff_eq] at space
  rcases space with ((rfl | rfl) | rfl) | rfl <;> exact absurd mark (by decide)

theorem skipSpace_of_head {chars : List Char} {first : Char}
    (head : chars.head? = some first) (solid : isSpace first = false) :
    skipSpace chars = chars := by
  cases chars with
  | nil => rfl
  | cons char rest =>
      obtain rfl := Option.some.inj head
      exact List.dropWhile_cons_of_neg (by simp [solid])

/-- A text whose first and last characters are no white space. -/
structure Tight (chars : List Char) : Prop where
  head : ∀ char, chars.head? = some char → isBlank char = false
  last : ∀ char, chars.getLast? = some char → isBlank char = false

theorem dropWhile_blank {chars : List Char}
    (head : ∀ char, chars.head? = some char → isBlank char = false) :
    chars.dropWhile isBlank = chars := by
  cases chars with
  | nil => rfl
  | cons char rest =>
      exact List.dropWhile_cons_of_neg (by simp [head char rfl])

theorem Tight.trim_eq {chars : List Char} (tight : Tight chars) :
    trim chars = chars := by
  unfold trim
  rw [dropWhile_blank tight.head, dropWhile_blank, List.reverse_reverse]
  rw [List.head?_reverse]
  exact tight.last

theorem Tight.of_solid {chars : List Char}
    (solid : chars.any isBlank = false) : Tight chars := by
  have each : ∀ char ∈ chars, isBlank char = false := by
    simpa only [Bool.not_eq_true] using List.any_eq_false.mp solid
  exact ⟨fun _ there => each _ (List.mem_of_head? there),
    fun _ there => each _ (List.mem_of_getLast? there)⟩

theorem Tight.between {first last : Char} (chars : List Char)
    (front : isBlank first = false) (back : isBlank last = false) :
    Tight (first :: chars ++ [last]) where
  head _ there := Option.some.inj there ▸ front
  last _ there := by
    rw [List.getLast?_concat] at there
    exact Option.some.inj there ▸ back

/-! ### Leaves -/

theorem write_symbol (name : String) (rest : List Char) :
    writeString name.toList ++ rest =
      '"' :: (name.toList.flatMap escapeChar ++ '"' :: rest) := by
  simp [writeString]

theorem json_numeral_or_null (number : Float) :
    writeValue (.float number) = ['n', 'u', 'l', 'l'] ∨
      Numeral (writeValue (.float number)) :=
  Layout.json_chars number

theorem tight_writeValue (value : Value) : Tight (writeValue value) := by
  have numeral : ∀ {chars}, Numeral chars → Tight chars := by
    refine fun numeral => .of_solid (List.any_eq_false.mpr ?_)
    intro char member
    simp [not_isBlank_of_isNumberChar (numeral.plain char member)]
  cases value with
  | integer number => exact numeral (numeral_integerChars number.toInt)
  | float number =>
      rcases json_numeral_or_null number with null | digits
      · rw [null]
        exact .of_solid (by decide)
      · exact numeral digits
  | bool truth =>
      cases truth
      · exact .of_solid (by decide)
      · exact .of_solid (by decide)
  | symbol name =>
      have quote : isBlank '"' = false := by decide
      exact .between _ quote quote

/-- What starts a value: neither white space nor a closing bracket. -/
def Starts (chars : List Char) : Prop :=
  ∃ first, chars.head? = some first ∧ isSpace first = false ∧ first ≠ ']'

theorem Starts.append {chars : List Char} (starts : Starts chars)
    (rest : List Char) : Starts (chars ++ rest) := by
  obtain ⟨first, head, solid⟩ := starts
  exact ⟨first, by rw [List.head?_append, head]; rfl, solid⟩

theorem Starts.of_numeral {chars : List Char} (numeral : Numeral chars) :
    Starts chars := by
  obtain ⟨first, rest, rfl⟩ := List.exists_cons_of_ne_nil numeral.filled
  have mark := numeral.plain first List.mem_cons_self
  refine ⟨first, rfl, not_isSpace_of_isNumberChar mark, ?_⟩
  rintro rfl
  exact absurd mark (by decide)

theorem starts_write (expression : Expression) : Starts (write expression) := by
  cases expression with
  | list items => exact ⟨'[', rfl, by decide, by decide⟩
  | atom value =>
      cases value with
      | integer number => exact .of_numeral (numeral_integerChars number.toInt)
      | float number =>
          rcases json_numeral_or_null number with null | digits
          · exact ⟨'n', by rw [write, null]; rfl, by decide, by decide⟩
          · exact .of_numeral digits
      | bool truth =>
          cases truth
          · exact ⟨'f', rfl, by decide, by decide⟩
          · exact ⟨'t', rfl, by decide, by decide⟩
      | symbol name => exact ⟨'"', rfl, by decide, by decide⟩

theorem starts_writeItems {items : List Expression} (filled : items ≠ []) :
    Starts (writeItems items) := by
  match items, filled with
  | [item], _ => exact starts_write item
  | item :: next :: items, _ => exact (starts_write item).append _

section Leaves

variable {inner : Option ValueReader} {rest : List Char}

/-- A text that starts within a number is read as a number. -/
theorem readValueWith_number {chars : List Char} (number : InNumber chars) :
    readValueWith inner chars = do
      let (value, rest) ← readNumber chars
      return (some (.atom value), rest) := by
  obtain ⟨first, head, mark⟩ := number
  unfold readValueWith
  rw [skipSpace_of_head head (not_isSpace_of_isNumberChar mark)]
  split
  case h_7 => rfl
  all_goals
    obtain rfl := Option.some.inj head
    exact absurd mark (by decide)

theorem Numeral.inNumber {chars : List Char} (numeral : Numeral chars)
    (rest : List Char) : InNumber (chars ++ rest) := by
  obtain ⟨first, others, rfl⟩ := List.exists_cons_of_ne_nil numeral.filled
  exact ⟨first, rfl, numeral.plain first List.mem_cons_self⟩

theorem readValueWith_quote {chars text : List Char}
    (read : readString chars = .ok (text, rest)) :
    readValueWith inner ('"' :: chars) =
      .ok (some (.symbol (String.ofList text)), rest) := by
  have step : readValueWith inner ('"' :: chars) =
      (readString chars).map fun found =>
        (some (.symbol (String.ofList found.1)), found.2) := rfl
  rw [step, read]
  rfl

/-- A written leaf that is no float is read back. -/
theorem readValueWith_leaf {value : Value}
    (floatFree : ∀ number, value ≠ .float number) (closes : Closes rest) :
    readValueWith inner (writeValue value ++ rest) =
      .ok (some (.atom value), rest) := by
  cases value with
  | integer number =>
      have numeral := numeral_integerChars number.toInt
      rw [writeValue, readValueWith_number (Numeral.inNumber numeral rest),
        readNumber_integerChars number closes]
      rfl
  | float number => exact absurd rfl (floatFree number)
  | bool truth => cases truth <;> rfl
  | symbol name =>
      rw [writeValue, write_symbol,
        readValueWith_quote (readString_written name.toList rest),
        String.ofList_toList]
      rfl

/-- Whatever is read from a written leaf, reading stops at its end or within a
number. -/
theorem left_of_readValueWith_leaf {value : Value} (closes : Closes rest)
    {item : Option Expression} {left : List Char}
    (done : readValueWith inner (writeValue value ++ rest) =
      .ok (item, left)) : left = rest ∨ InNumber left := by
  by_cases floatFree : ∀ number, value ≠ .float number
  · rw [readValueWith_leaf floatFree closes] at done
    exact .inl (Prod.mk.inj (Except.ok.inj done)).2.symm
  simp only [ne_eq, not_forall, not_not] at floatFree
  obtain ⟨number, rfl⟩ := floatFree
  rcases json_numeral_or_null number with null | numeral
  · rw [null] at done
    have read : readValueWith inner (['n', 'u', 'l', 'l'] ++ rest) =
        .ok (none, rest) := rfl
    rw [read] at done
    exact .inl (Prod.mk.inj (Except.ok.inj done)).2.symm
  · rw [readValueWith_number (Numeral.inNumber numeral rest)] at done
    obtain ⟨⟨number, after⟩, read, same⟩ := ok_of_bind done
    obtain ⟨_, rfl⟩ := Prod.mk.inj (Except.ok.inj same)
    exact (consumes_readNumber read).of_numeral numeral.plain closes

end Leaves

end GrammaticalEvolution.Json
