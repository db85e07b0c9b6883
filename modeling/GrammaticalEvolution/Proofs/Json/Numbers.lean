import GrammaticalEvolution.Json.Number
import GrammaticalEvolution.Proofs.DecimalTexts
import Mathlib.Data.List.TakeWhile

/-!
# Numbers in JSON texts

A written integer is read back as the same integer if a comma, a bracket or
nothing follows it.  Of any text that a number is read from, only digits and
marks of numbers are used up, so that reading the text of a float stops at its
end or within it.
-/

namespace GrammaticalEvolution.Json

open Decimal

/-- What follows a value of a compact text: nothing, a comma, or the closing
bracket of an array. -/
inductive Closes : List Char → Prop where
  | nothing : Closes []
  | comma (rest : List Char) : Closes (',' :: rest)
  | bracket (rest : List Char) : Closes (']' :: rest)

/-! ### Results of readers -/

section Results

variable {ε α β : Type} {first : Except ε α} {result : β}

theorem ok_of_bind {next : α → Except ε β}
    (done : (first >>= next) = .ok result) :
    ∃ value, first = .ok value ∧ next value = .ok result := by
  cases first with
  | error fault => exact nomatch done
  | ok value => exact ⟨value, rfl, done⟩

theorem error_of_bind {next : α → Except ε β} {fault : ε}
    (failed : (first >>= next) = .error fault) :
    first = .error fault ∨
      ∃ value, first = .ok value ∧ next value = .error fault := by
  cases first with
  | error reason =>
      obtain rfl := Except.error.inj failed
      exact .inl rfl
  | ok value => exact .inr ⟨value, rfl, failed⟩

theorem ok_of_map {change : α → β} (done : first.map change = .ok result) :
    ∃ value, first = .ok value ∧ change value = result := by
  cases first with
  | error fault => exact nomatch done
  | ok value => exact ⟨value, rfl, Except.ok.inj done⟩

theorem unexpected_ne_ok {chars : List Char} {value : α} :
    unexpected chars ≠ .ok value := by
  cases chars <;> exact nofun

end Results

/-! ### Integers -/

theorem gather_eq {start : Nat} {chars : List Char}
    (fits : readDigits start chars < UInt64.size) :
    gather start chars = (readDigits start chars, 0) := by
  induction chars generalizing start with
  | nil => rfl
  | cons char chars induction =>
      change readDigits (10 * start + (char.toNat - 48)) chars < _ at fits
      have next := Nat.lt_of_le_of_lt (le_readDigits _ chars) fits
      rw [gather, if_pos next, induction fits]
      rfl

section Digits

variable {digits rest : List Char}
  (plain : ∀ char ∈ digits, isDigit char = true) (closes : Closes rest)

include plain closes

theorem takeWhile_digits : (digits ++ rest).takeWhile isDigit = digits := by
  rw [List.takeWhile_append_of_pos plain]
  cases closes <;> exact List.append_nil digits

theorem dropWhile_digits : (digits ++ rest).dropWhile isDigit = rest := by
  rw [List.dropWhile_append_of_pos plain]
  cases closes <;> rfl

end Digits

theorem readMagnitude_naturalChars {number : Nat} (fits : number < UInt64.size)
    {rest : List Char} (closes : Closes rest) (negative : Bool) :
    readMagnitude negative (naturalChars number ++ rest) =
      .ok (wholeValue negative number, rest) := by
  have plain : ∀ char ∈ naturalChars number, isDigit char = true :=
    fun _ => isDigit_of_mem_naturalChars
  have gathered : gather 0 (naturalChars number) = (number, 0) := by
    rw [gather_eq (by rwa [readDigits_naturalChars]), readDigits_naturalChars]
  have lone : ¬ ((naturalChars number).head? = some '0' ∧
      (naturalChars number).length ≠ 1) :=
    fun leading => leading.2 (naturalChars_lone_zero leading.1)
  unfold readMagnitude
  dsimp only
  rw [takeWhile_digits plain closes, dropWhile_digits plain closes,
    if_neg (naturalChars_ne_nil number), if_neg lone, gathered]
  cases closes <;> rfl

theorem wholeValue_toInt (number : Int64) :
    wholeValue (decide (number.toInt < 0)) number.toInt.natAbs =
      .integer number := by
  have lower := number.minValue_le_toInt
  have upper := number.toInt_le
  have signed : (if decide (number.toInt < 0) = true
      then -(number.toInt.natAbs : Int) else number.toInt.natAbs) =
        number.toInt := by
    by_cases below : number.toInt < 0
    · rw [if_pos (decide_eq_true below)]
      omega
    · rw [if_neg (by simpa using below)]
      omega
  have inside : ¬ (decide (number.toInt < 0) && number.toInt.natAbs == 0 ||
      decide (number.toInt < Int64.minValue.toInt) ||
      decide (Int64.maxValue.toInt < number.toInt)) = true := by
    simp only [Bool.or_eq_true, Bool.and_eq_true, decide_eq_true_eq,
      beq_iff_eq]
    omega
  unfold wholeValue
  dsimp only
  rw [signed, if_neg inside, Int64.ofInt_toInt]

theorem readNumber_unsigned {chars : List Char}
    (unsigned : ∀ char, chars.head? = some char → char ≠ '-') :
    readNumber chars = readMagnitude false chars := by
  unfold readNumber
  split
  · exact absurd rfl (unsigned _ rfl)
  · rfl

/-- A written integer is read back. -/
theorem readNumber_integerChars (number : Int64) {rest : List Char}
    (closes : Closes rest) :
    readNumber (integerChars number.toInt ++ rest) =
      .ok (.integer number, rest) := by
  have fits : number.toInt.natAbs < UInt64.size := by
    have lower := number.le_toInt
    have upper := number.toInt_lt
    change number.toInt.natAbs < 2 ^ 64
    omega
  have whole := wholeValue_toInt number
  unfold integerChars
  by_cases below : number.toInt < 0
  · rw [decide_eq_true below] at whole
    rw [if_pos below, List.cons_append, readNumber,
      readMagnitude_naturalChars fits closes, whole]
  · rw [decide_eq_false below] at whole
    rw [if_neg below, readNumber_unsigned,
      readMagnitude_naturalChars fits closes, whole]
    intro char first
    rw [List.head?_append_of_ne_nil _ (naturalChars_ne_nil _)] at first
    rintro rfl
    exact absurd (isDigit_of_mem_naturalChars (List.mem_of_head? first))
      (by decide)

/-! ### What reading a number uses up -/

/-- What follows is left of a text after digits and marks of numbers. -/
def Consumes (chars rest : List Char) : Prop :=
  ∃ used, chars = used ++ rest ∧ ∀ char ∈ used, isNumberChar char = true

namespace Consumes

variable {chars middle rest : List Char}

theorem refl (chars : List Char) : Consumes chars chars :=
  ⟨[], rfl, List.forall_mem_nil _⟩

theorem trans (first : Consumes chars middle) (second : Consumes middle rest) :
    Consumes chars rest := by
  obtain ⟨used, rfl, plain⟩ := first
  obtain ⟨more, rfl, morePlain⟩ := second
  exact ⟨used ++ more, by rw [List.append_assoc],
    List.forall_mem_append.mpr ⟨plain, morePlain⟩⟩

theorem cons {char : Char} (mark : isNumberChar char = true)
    (consumes : Consumes chars rest) : Consumes (char :: chars) rest := by
  obtain ⟨used, rfl, plain⟩ := consumes
  exact ⟨char :: used, rfl, List.forall_mem_cons.mpr ⟨mark, plain⟩⟩

theorem digits (chars : List Char) :
    Consumes chars (chars.dropWhile isDigit) :=
  ⟨chars.takeWhile isDigit, List.takeWhile_append_dropWhile.symm,
    fun _ member => isNumberChar_of_isDigit (List.mem_takeWhile_imp member)⟩

theorem sign (chars : List Char) : Consumes chars (splitSign chars).2 := by
  unfold splitSign
  split
  · exact .cons (by decide) (.refl _)
  · exact .cons (by decide) (.refl _)
  · exact .refl _

end Consumes

section Inversion

variable {negative : Bool} {significand : Nat} {exponent : Int}
  {chars rest : List Char}

theorem consumes_readExponent {number : Float}
    (done : readExponent negative significand exponent chars =
      .ok (number, rest)) : Consumes chars rest := by
  have used : Consumes chars ((splitSign chars).2.dropWhile isDigit) :=
    (Consumes.sign chars).trans (.digits _)
  unfold readExponent at done
  dsimp only at done
  split at done
  · exact absurd done unexpected_ne_ok
  split at done
  · obtain ⟨_, _, same⟩ := ok_of_bind done
    obtain ⟨_, rfl⟩ := Prod.mk.inj (Except.ok.inj same)
    exact used
  split at done
  · obtain ⟨_, rfl⟩ := Prod.mk.inj (Except.ok.inj done)
    exact used
  · exact nomatch done

theorem consumes_readTail {number : Float}
    (done : readTail negative significand exponent chars =
      .ok (number, rest)) : Consumes chars rest := by
  unfold readTail at done
  split at done
  · exact .cons (by decide) (consumes_readExponent done)
  · exact .cons (by decide) (consumes_readExponent done)
  · obtain ⟨_, _, same⟩ := ok_of_bind done
    obtain ⟨_, rfl⟩ := Prod.mk.inj (Except.ok.inj same)
    exact .refl chars

theorem consumes_readPlaces {number : Float}
    (done : readPlaces negative significand exponent chars =
      .ok (number, rest)) : Consumes chars rest := by
  unfold readPlaces at done
  dsimp only at done
  split at done
  · exact absurd done unexpected_ne_ok
  · exact (Consumes.digits chars).trans (consumes_readTail done)

theorem consumes_readMagnitude {value : Value}
    (done : readMagnitude negative chars = .ok (value, rest)) :
    Consumes chars rest := by
  refine (Consumes.digits chars).trans ?_
  unfold readMagnitude at done
  dsimp only at done
  generalize chars.dropWhile isDigit = following at done ⊢
  split at done
  · exact absurd done unexpected_ne_ok
  split at done
  · exact nomatch done
  split at done
  · obtain ⟨⟨number, left⟩, read, same⟩ := ok_of_map done
    obtain ⟨_, rfl⟩ := Prod.mk.inj same
    exact .cons (by decide) (consumes_readPlaces read)
  split at done
  · obtain ⟨⟨number, left⟩, read, same⟩ := ok_of_map done
    obtain ⟨_, rfl⟩ := Prod.mk.inj same
    exact consumes_readTail read
  · obtain ⟨_, rfl⟩ := Prod.mk.inj (Except.ok.inj done)
    exact .refl _

theorem consumes_readNumber {value : Value}
    (done : readNumber chars = .ok (value, rest)) : Consumes chars rest := by
  unfold readNumber at done
  split at done
  · exact .cons (by decide) (consumes_readMagnitude done)
  · exact consumes_readMagnitude done

end Inversion

/-- What is left starts within a number. -/
def InNumber (rest : List Char) : Prop :=
  ∃ char, rest.head? = some char ∧ isNumberChar char = true

/-- Reading a numeral stops at its end or within it. -/
theorem Consumes.of_numeral {numeral rest left : List Char}
    (plain : ∀ char ∈ numeral, isNumberChar char = true)
    (closes : Closes rest) (consumes : Consumes (numeral ++ rest) left) :
    left = rest ∨ InNumber left := by
  obtain ⟨used, split, usedPlain⟩ := consumes
  rcases List.append_eq_append_iff.mp split with
    ⟨beyond, rfl, follows⟩ | ⟨unread, rfl, rfl⟩
  · -- Nothing that closes a value belongs to a number.
    cases beyond with
    | nil => exact .inl follows.symm
    | cons char more =>
        have mark := usedPlain char (by simp)
        cases closes with
        | nothing => exact nomatch follows
        | comma | bracket =>
            obtain rfl := (List.cons.inj follows).1
            exact absurd mark (by decide)
  · cases unread with
    | nil => exact .inl rfl
    | cons char more => exact .inr ⟨char, rfl, plain char (by simp)⟩

end GrammaticalEvolution.Json
