import GrammaticalEvolution.Json.Reader
import GrammaticalEvolution.Json.Writer

/-!
# Strings in JSON texts

Each character of a written string is read back in one step: as it stands, from
the escape of two characters that it has, or from the number of a control
character.  So a written string is read back up to its closing quotation mark,
whatever follows.
-/

namespace GrammaticalEvolution.Json

open Text

theorem hexValue?_hexDigit {digit : Nat} (small : digit < 16) :
    hexValue? (hexDigit digit) = some digit := by
  have all : ∀ digit < 16, hexValue? (hexDigit digit) = some digit := by decide
  exact all digit small

/-- The escape of a control character stands for that character. -/
theorem readCode_control {char : Char} (control : char.toNat < 0x20)
    (rest : List Char) :
    readCode ('0' :: '0' :: hexDigit (char.toNat / 16) ::
      hexDigit (char.toNat % 16) :: rest) = .ok (char, rest) := by
  have zero : hexValue? '0' = some 0 := by decide
  have high := hexValue?_hexDigit (show char.toNat / 16 < 16 by omega)
  have low := hexValue?_hexDigit (show char.toNat % 16 < 16 by omega)
  have unit : readUnit ('0' :: '0' :: hexDigit (char.toNat / 16) ::
      hexDigit (char.toNat % 16) :: rest) = .ok (char.toNat, rest) := by
    have whole : ((0 * 16 + 0) * 16 + char.toNat / 16) * 16 +
        char.toNat % 16 = char.toNat := by omega
    simp only [readUnit, zero, high, low, whole]
  have notHigh : isHighSurrogate char.toNat = false := by
    simp only [isHighSurrogate, Bool.and_eq_false_iff, decide_eq_false_iff_not]
    omega
  have notLow : isLowSurrogate char.toNat = false := by
    simp only [isLowSurrogate, Bool.and_eq_false_iff, decide_eq_false_iff_not]
    omega
  unfold readCode
  rw [unit]
  change (if isHighSurrogate char.toNat = true then _ else _) = _
  rw [notHigh, notLow, Char.ofNat_toNat]
  rfl

theorem readStringWithin_plain (steps : Nat) {char : Char}
    (printable : ¬ char.toNat < 0x20) (noQuote : char ≠ '"')
    (noBackslash : char ≠ '\\') (rest : List Char) :
    readStringWithin (steps + 1) (char :: rest) = do
      let (text, rest) ← readStringWithin steps rest
      return (char :: text, rest) := by
  rw [readStringWithin, if_neg printable]
  · exact noQuote
  · exact noBackslash

/-- A written character takes one step and is read back. -/
theorem readStringWithin_escapeChar (steps : Nat) (char : Char)
    (rest : List Char) :
    readStringWithin (steps + 1) (escapeChar char ++ rest) = do
      let (text, rest) ← readStringWithin steps rest
      return (char :: text, rest) := by
  unfold escapeChar
  split
  case h_8 noQuote noBackslash _ _ _ _ _ =>
    split
    · next control =>
        simp only [List.cons_append, List.nil_append, readStringWithin,
          readEscape, readCode_control control]
        rfl
    · next printable =>
        exact readStringWithin_plain steps printable noQuote noBackslash rest
  all_goals rfl

theorem readStringWithin_written {steps : Nat} {text : List Char}
    (enough : text.length < steps) (rest : List Char) :
    readStringWithin steps (text.flatMap escapeChar ++ '"' :: rest) =
      .ok (text, rest) := by
  induction text generalizing steps with
  | nil =>
      obtain ⟨steps, rfl⟩ := Nat.exists_eq_add_one_of_ne_zero
        (Nat.ne_of_gt enough)
      rfl
  | cons char text induction =>
      obtain ⟨steps, rfl⟩ := Nat.exists_eq_add_one_of_ne_zero
        (Nat.ne_of_gt (Nat.zero_lt_of_lt enough))
      rw [List.flatMap_cons, List.append_assoc, readStringWithin_escapeChar,
        induction (Nat.lt_of_succ_lt_succ enough)]
      rfl

theorem length_le_escaped (text : List Char) :
    text.length ≤ (text.flatMap escapeChar).length := by
  induction text with
  | nil => exact Nat.le_refl 0
  | cons char text induction =>
      have filled : 0 < (escapeChar char).length := by
        unfold escapeChar
        split
        case h_8 => split <;> exact Nat.zero_lt_succ _
        all_goals exact Nat.zero_lt_succ _
      rw [List.flatMap_cons, List.length_append, List.length_cons]
      omega

/-- A written string is read back. -/
theorem readString_written (text rest : List Char) :
    readString (text.flatMap escapeChar ++ '"' :: rest) = .ok (text, rest) := by
  have length := length_le_escaped text
  refine readStringWithin_written ?_ rest
  rw [List.length_append]
  omega

end GrammaticalEvolution.Json
