import GrammaticalEvolution.Decimal.Layout
import GrammaticalEvolution.Decimal.Literal
import Mathlib.Data.List.Basic

/-!
# Texts of decimal numbers

A natural number is written with its decimal digits, the first of which is not
zero unless it stands alone, and those digits spell the number again.  Whatever
layout a float is written in, its text consists of digits and a few marks.
-/

namespace GrammaticalEvolution.Decimal

/-! ### Digits -/

theorem isDigit_digitChar {digit : Nat} (small : digit < 10) :
    isDigit (digitChar digit) = true := by
  have all : ∀ digit < 10, isDigit (digitChar digit) = true := by decide
  exact all digit small

theorem toNat_digitChar {digit : Nat} (small : digit < 10) :
    (digitChar digit).toNat - 48 = digit := by
  have all : ∀ digit < 10, (digitChar digit).toNat - 48 = digit := by decide
  exact all digit small

theorem digitChar_eq_zero_iff {digit : Nat} (small : digit < 10) :
    digitChar digit = '0' ↔ digit = 0 := by
  have all : ∀ digit < 10, digitChar digit = '0' ↔ digit = 0 := by decide
  exact all digit small

theorem isDigit_of_mem_digitChars {digits : List Nat}
    (small : ∀ digit ∈ digits, digit < 10) {char : Char}
    (member : char ∈ digitChars digits) : isDigit char = true := by
  obtain ⟨digit, inside, rfl⟩ := List.mem_map.mp member
  exact isDigit_digitChar (small digit inside)

theorem digitsOf_lt (number : Nat) : ∀ digit ∈ digitsOf number, digit < 10 := by
  fun_induction digitsOf number with
  | case1 => exact List.forall_mem_nil _
  | case2 number positive induction =>
      intro digit member
      rcases List.mem_append.mp member with before | last
      · exact induction digit before
      · rw [List.mem_singleton.mp last]
        exact Nat.mod_lt number (by decide)

theorem digitsOf_ne_nil {number : Nat} (positive : number ≠ 0) :
    digitsOf number ≠ [] := by
  rw [digitsOf, if_neg positive]
  exact List.concat_ne_nil _ _

theorem head?_digitsOf (number : Nat) : (digitsOf number).head? ≠ some 0 := by
  fun_induction digitsOf number with
  | case1 => exact nofun
  | case2 number positive induction =>
      by_cases single : number / 10 = 0
      · rw [single, digitsOf, if_pos rfl, List.nil_append, List.head?_cons]
        have last : number % 10 ≠ 0 := by omega
        exact fun same => last (Option.some.inj same)
      · rwa [List.head?_append_of_ne_nil _ (digitsOf_ne_nil single)]

theorem readDigits_append (start : Nat) (first second : List Char) :
    readDigits start (first ++ second) =
      readDigits (readDigits start first) second :=
  List.foldl_append

theorem readDigits_digitsOf (number : Nat) :
    readDigits 0 (digitChars (digitsOf number)) = number := by
  fun_induction digitsOf number with
  | case1 => rfl
  | case2 number positive induction =>
      have small : number % 10 < 10 := Nat.mod_lt number (by decide)
      unfold digitChars at induction ⊢
      rw [List.map_append, readDigits_append, induction]
      change 10 * (number / 10) + ((digitChar (number % 10)).toNat - 48) =
        number
      rw [toNat_digitChar small, Nat.div_add_mod]

theorem le_readDigits (start : Nat) (chars : List Char) :
    start ≤ readDigits start chars := by
  induction chars generalizing start with
  | nil => exact Nat.le_refl start
  | cons char chars induction =>
      have later := induction (10 * start + (char.toNat - 48))
      change start ≤ readDigits (10 * start + (char.toNat - 48)) chars
      omega

/-! ### Natural numbers -/

theorem isDigit_of_mem_naturalChars {number : Nat} {char : Char}
    (member : char ∈ naturalChars number) : isDigit char = true := by
  unfold naturalChars at member
  split at member
  · rw [List.mem_singleton.mp member]
    decide
  · exact isDigit_of_mem_digitChars (digitsOf_lt number) member

theorem naturalChars_ne_nil (number : Nat) : naturalChars number ≠ [] := by
  unfold naturalChars
  split
  · exact List.cons_ne_nil _ _
  · next positive =>
      exact fun empty => digitsOf_ne_nil positive (List.map_eq_nil_iff.mp empty)

theorem readDigits_naturalChars (number : Nat) :
    readDigits 0 (naturalChars number) = number := by
  unfold naturalChars
  split
  · next zero =>
      rw [zero]
      rfl
  · exact readDigits_digitsOf number

/-- No leading zero but a lone one. -/
theorem naturalChars_lone_zero {number : Nat}
    (leading : (naturalChars number).head? = some '0') :
    (naturalChars number).length = 1 := by
  unfold naturalChars at leading ⊢
  split at leading
  · next zero => rw [if_pos zero, List.length_singleton]
  · exfalso
    have small := digitsOf_lt number
    have noZero := head?_digitsOf number
    unfold digitChars at leading
    cases digits : digitsOf number with
    | nil => exact nomatch digits ▸ leading
    | cons first rest =>
        rw [digits] at leading noZero small
        have firstSmall := small first List.mem_cons_self
        have same : digitChar first = '0' := Option.some.inj leading
        rw [digitChar_eq_zero_iff firstSmall] at same
        exact noZero (congrArg some same)

/-! ### Characters of numbers -/

/-- A digit, a sign, a point or the mark of an exponent. -/
def isNumberChar (char : Char) : Bool :=
  isDigit char || char == '-' || char == '+' || char == '.' || char == 'e' ||
    char == 'E'

theorem isNumberChar_of_isDigit {char : Char} (digit : isDigit char = true) :
    isNumberChar char = true := by
  simp [isNumberChar, digit]

/-- A text of digits and marks alone, at least one of them. -/
structure Numeral (chars : List Char) : Prop where
  filled : chars ≠ []
  plain : ∀ char ∈ chars, isNumberChar char = true

namespace Numeral

theorem append {first second : List Char} (one : Numeral first)
    (plain : ∀ char ∈ second, isNumberChar char = true) :
    Numeral (first ++ second) where
  filled := List.append_ne_nil_of_left_ne_nil one.filled second
  plain := List.forall_mem_append.mpr ⟨one.plain, plain⟩

theorem cons {first : Char} {chars : List Char}
    (mark : isNumberChar first = true)
    (plain : ∀ char ∈ chars, isNumberChar char = true) :
    Numeral (first :: chars) where
  filled := List.cons_ne_nil first chars
  plain := List.forall_mem_cons.mpr ⟨mark, plain⟩

end Numeral

theorem plain_digitChars {digits : List Nat}
    (small : ∀ digit ∈ digits, digit < 10) :
    ∀ char ∈ digitChars digits, isNumberChar char = true :=
  fun _ member =>
    isNumberChar_of_isDigit (isDigit_of_mem_digitChars small member)

theorem plain_zeros (count : Nat) :
    ∀ char ∈ List.replicate count '0', isNumberChar char = true := by
  intro char member
  rw [List.eq_of_mem_replicate member]
  decide

theorem numeral_integerChars (number : Int) :
    Numeral (integerChars number) := by
  have natural : ∀ magnitude, Numeral (naturalChars magnitude) :=
    fun magnitude => ⟨naturalChars_ne_nil magnitude, fun char member =>
      isNumberChar_of_isDigit (isDigit_of_mem_naturalChars member)⟩
  unfold integerChars
  split
  · exact .cons (by decide) (natural _).plain
  · exact natural _

theorem small_shortest (tie : Tie) (mantissa : Nat) (exponent : Int) :
    ∀ digit ∈ (shortest tie mantissa exponent).digits, digit < 10 := by
  unfold shortest
  dsimp only
  split
  · next point grid found =>
      intro digit member
      have inside :=
        (List.dropWhile_sublist _).subset (List.mem_reverse.mp member)
      exact digitsOf_lt point digit (List.mem_reverse.mp inside)
  · exact List.forall_mem_nil _

section Layouts

variable {number : Digits} (small : ∀ digit ∈ number.digits, digit < 10)

include small

theorem plain_take (count : Nat) :
    ∀ char ∈ digitChars (number.digits.take count), isNumberChar char = true :=
  plain_digitChars fun digit member => small digit (List.mem_of_mem_take member)

theorem plain_drop (count : Nat) :
    ∀ char ∈ digitChars (number.digits.drop count), isNumberChar char = true :=
  plain_digitChars fun digit member => small digit (List.mem_of_mem_drop member)

theorem numeral_positionalChars (integralPoint : Bool) :
    Numeral (positionalChars integralPoint number) := by
  unfold positionalChars
  split
  · refine .cons (by decide) (List.forall_mem_cons.mpr ⟨by decide, ?_⟩)
    exact List.forall_mem_append.mpr ⟨plain_zeros _, plain_digitChars small⟩
  · dsimp only
    have whole : Numeral
        (digitChars (number.digits.take (number.exponent.toNat + 1)) ++
          List.replicate (number.exponent.toNat + 1 - number.digits.length)
            '0') := by
      refine ⟨?_, List.forall_mem_append.mpr
        ⟨plain_take small _, plain_zeros _⟩⟩
      rw [← List.length_pos_iff, List.length_append, digitChars,
        List.length_map, List.length_take, List.length_replicate]
      omega
    split
    · split
      · exact whole.append (List.all_eq_true.mp (by decide))
      · exact whole
    · exact whole.append
        (List.forall_mem_cons.mpr ⟨by decide, plain_drop small _⟩)

theorem numeral_exponentialChars (exponentPlus : Bool) :
    Numeral (exponentialChars exponentPlus number) := by
  unfold exponentialChars
  dsimp only
  have exponent := numeral_integerChars number.exponent
  refine ⟨List.append_ne_nil_of_right_ne_nil _ (List.cons_ne_nil _ _), ?_⟩
  refine List.forall_mem_append.mpr ⟨List.forall_mem_append.mpr
    ⟨plain_take small 1, ?_⟩, List.forall_mem_cons.mpr ⟨by decide, ?_⟩⟩
  · split
    · exact List.forall_mem_nil _
    · exact List.forall_mem_cons.mpr ⟨by decide, plain_drop small _⟩
  · split
    · exact List.forall_mem_cons.mpr ⟨by decide, exponent.plain⟩
    · exact exponent.plain

end Layouts

namespace Layout

theorem numeral_magnitude (layout : Layout) (mantissa : Nat) (exponent : Int) :
    Numeral (layout.magnitude mantissa exponent) := by
  have small := small_shortest layout.tie mantissa exponent
  unfold magnitude
  split
  · split
    · exact ⟨by decide, List.all_eq_true.mp (by decide)⟩
    · exact ⟨by decide, List.all_eq_true.mp (by decide)⟩
  · dsimp only
    split
    · exact numeral_positionalChars small _
    · exact numeral_exponentialChars small _

/-- In JSON texts a float is a numeral, or `null` if it is no finite number. -/
theorem json_chars (number : Float) :
    json.chars number = "null".toList ∨ Numeral (json.chars number) := by
  unfold chars
  split
  · exact .inl rfl
  · split
    · exact .inl rfl
    · exact .inl rfl
  · next mantissa exponent _ =>
      have magnitude := json.numeral_magnitude mantissa exponent
      refine .inr ?_
      dsimp only
      split
      · exact .cons (by decide) magnitude.plain
      · exact magnitude

end Layout

end GrammaticalEvolution.Decimal
