import GrammaticalEvolution.Proofs.ShortestDigits
import GrammaticalEvolution.Toml.Scalar

/-!
# Numbers in TOML texts

A float is written with digits on both sides of a point, which spell a decimal
that is read as the same float.  An integer is written with its digits alone.
-/

namespace GrammaticalEvolution.Toml

open Decimal

/-- Digits on both sides of a point, and the number they denote. -/
structure Pointed (whole places : List Char) (exact : Rat) : Prop where
  wholeDigits : ∀ char ∈ whole, isDigit char = true
  leading : whole = ['0'] ∨ ∃ first, first ≠ '0' ∧ whole.head? = some first
  placesDigits : ∀ char ∈ places, isDigit char = true
  placesFilled : places ≠ []
  value : exact = readDigits (readDigits 0 whole) places / 10 ^ places.length

section Written

variable {number : Digits} {exact : Rat}

theorem isDigit_replicate (count : Nat) :
    ∀ char ∈ List.replicate count '0', isDigit char = true := by
  intro char member
  rw [List.eq_of_mem_replicate member]
  decide

theorem readDigits_take_drop (digits : List Nat) (count : Nat) :
    readDigits (readDigits 0 (digitChars (digits.take count)))
      (digitChars (digits.drop count)) = spelled digits := by
  unfold spelled digitChars
  rw [← readDigits_append, ← List.map_append, List.take_append_drop]

/-- Digits in front of a point start with the first digit of the number. -/
theorem leading_take (spells : Spells number exact)
    (small : ∀ digit ∈ number.digits, digit < 10) (width : Nat)
    (zeros : List Char) :
    ∃ first, first ≠ '0' ∧
      (digitChars (number.digits.take (width + 1)) ++ zeros).head? =
        some first := by
  have leading := spells.leading
  cases written : number.digits with
  | nil => exact absurd written spells.filled
  | cons first rest =>
      rw [written] at small leading
      have firstSmall := small first List.mem_cons_self
      refine ⟨digitChar first, fun same => ?_, rfl⟩
      rw [digitChar_eq_zero_iff firstSmall] at same
      exact leading (congrArg some same)

theorem value_eq (spells : Spells number exact) (up down : Nat)
    (power : number.exponent + 1 - number.digits.length = up - down) :
    exact = (spelled number.digits * 10 ^ up : Nat) / 10 ^ down := by
  rw [spells.value, power, zpow_sub₀ (by norm_num), zpow_natCast, zpow_natCast]
  push_cast
  ring

/-- A number below one is written with zeros behind the point. -/
theorem pointed_fraction (spells : Spells number exact)
    (small : ∀ digit ∈ number.digits, digit < 10)
    (below : number.exponent < 0) :
    Pointed ['0'] (List.replicate (-number.exponent - 1).toNat '0' ++
      digitChars number.digits) exact where
  wholeDigits := isDigit_replicate 1
  leading := .inl rfl
  placesDigits := List.forall_mem_append.mpr ⟨isDigit_replicate _,
    fun _ member => isDigit_of_mem_digitChars small member⟩
  placesFilled := by
    refine List.append_ne_nil_of_right_ne_nil _ fun empty => ?_
    exact spells.filled (List.map_eq_nil_iff.mp empty)
  value := by
    have none : readDigits 0 ['0'] = 0 := rfl
    rw [none, readDigits_append, readDigits_zeros, Nat.zero_mul,
      List.length_append, List.length_replicate, digitChars, List.length_map]
    rw [value_eq spells 0 ((-number.exponent - 1).toNat + number.digits.length)
      (by omega), Nat.pow_zero, Nat.mul_one]
    rfl

/-- An integral number is written with a zero behind the point. -/
theorem pointed_integral (spells : Spells number exact)
    (small : ∀ digit ∈ number.digits, digit < 10)
    (above : 0 ≤ number.exponent)
    (short : number.digits.length ≤ number.exponent.toNat + 1) :
    Pointed (digitChars (number.digits.take (number.exponent.toNat + 1)) ++
      List.replicate (number.exponent.toNat + 1 - number.digits.length) '0')
      ['0'] exact where
  wholeDigits := List.forall_mem_append.mpr
    ⟨fun _ member => isDigit_of_mem_digitChars
      (fun digit inside => small digit (List.mem_of_mem_take inside)) member,
      isDigit_replicate _⟩
  leading := .inr (leading_take spells small number.exponent.toNat _)
  placesDigits := isDigit_replicate 1
  placesFilled := by decide
  value := by
    rw [List.take_of_length_le short, readDigits_append, readDigits_zeros]
    rw [value_eq spells
      (number.exponent.toNat + 1 - number.digits.length + 1) 1 (by omega)]
    change _ = (10 * (spelled number.digits * _) + 0 : Nat) / (10 ^ 1 : Rat)
    rw [Nat.pow_succ]
    push_cast
    ring

/-- Other numbers have digits on both sides of the point. -/
theorem pointed_mixed (spells : Spells number exact)
    (small : ∀ digit ∈ number.digits, digit < 10)
    (above : 0 ≤ number.exponent)
    (long : number.exponent.toNat + 1 < number.digits.length) :
    Pointed (digitChars (number.digits.take (number.exponent.toNat + 1)))
      (digitChars (number.digits.drop (number.exponent.toNat + 1)))
      exact where
  wholeDigits := fun _ member => isDigit_of_mem_digitChars
    (fun digit inside => small digit (List.mem_of_mem_take inside)) member
  leading := by
    have first := leading_take spells small number.exponent.toNat []
    rw [List.append_nil] at first
    exact .inr first
  placesDigits := fun _ member => isDigit_of_mem_digitChars
    (fun digit inside => small digit (List.mem_of_mem_drop inside)) member
  placesFilled := fun empty =>
    absurd (List.drop_eq_nil_iff.mp (List.map_eq_nil_iff.mp empty))
      (Nat.not_le.mpr long)
  value := by
    rw [readDigits_take_drop, digitChars, List.length_map, List.length_drop]
    rw [value_eq spells 0
      (number.digits.length - (number.exponent.toNat + 1)) (by omega),
      Nat.pow_zero, Nat.mul_one]

theorem pointed_positionalChars (spells : Spells number exact)
    (small : ∀ digit ∈ number.digits, digit < 10) :
    ∃ whole places, positionalChars true number = whole ++ '.' :: places ∧
      Pointed whole places exact := by
  unfold positionalChars
  split_ifs with below
  · exact ⟨_, _, rfl, pointed_fraction spells small below⟩
  · dsimp only
    split
    · next none =>
        exact ⟨_, _, rfl, pointed_integral spells small (by omega)
          (List.drop_eq_nil_iff.mp none)⟩
    · next written =>
        have long : number.exponent.toNat + 1 < number.digits.length := by
          by_contra short
          exact written (List.drop_eq_nil_iff.mpr (Nat.not_lt.mp short))
        have none : number.exponent.toNat + 1 - number.digits.length = 0 := by
          omega
        rw [none, List.replicate_zero, List.append_nil]
        exact ⟨_, _, rfl, pointed_mixed spells small (by omega) long⟩
  · contradiction

end Written

/-! ### Reading -/

section Reading

variable {whole places : List Char} {exact : Rat}

theorem ne_of_isDigit {char other : Char} (digit : isDigit char = true)
    (mark : isDigit other = false) : char ≠ other := by
  rintro rfl
  exact nomatch digit.symm.trans mark

/-- Digits need no grouping. -/
theorem ungroup?_digits {chars : List Char} (filled : chars ≠ [])
    (digits : ∀ char ∈ chars, isDigit char = true) :
    ungroup? isDigit chars = some chars := by
  have first := fun rest (char : Char) (same : chars = char :: rest) =>
    digits char (same ▸ List.mem_cons_self)
  fun_induction ungroup? isDigit chars with
  | case1 => exact absurd rfl filled
  | case2 => rfl
  | case3 digit other | case5 digit rest other | case7 digit rest _ _ other =>
      exact absurd (first _ _ rfl) other
  | case4 digit rest =>
      have underscore := digits '_' (by simp)
      exact absurd underscore (by decide)
  | case6 digit rest some _ _ induction =>
      have later := (List.forall_mem_cons.mp digits).2
      rw [induction some later fun _ char same =>
        later char (same ▸ List.mem_cons_self)]
      rfl

theorem wholeDigits?_pointed (pointed : Pointed whole places exact) :
    wholeDigits? whole = some whole := by
  have filled : whole ≠ [] := by
    rcases pointed.leading with rfl | ⟨first, _, found⟩
    · exact List.cons_ne_nil _ _
    · exact List.ne_nil_of_mem (List.mem_of_head? found)
  have lone : ¬ (whole.head? = some '0' ∧ whole.length ≠ 1) := by
    rintro ⟨zero, long⟩
    rcases pointed.leading with rfl | ⟨first, other, found⟩
    · exact long rfl
    · exact other (Option.some.inj (found.symm.trans zero))
  unfold wholeDigits?
  rw [ungroup?_digits filled pointed.wholeDigits]
  change (if _ then none else some whole) = some whole
  rw [if_neg lone]

theorem isPlace_of_isDigit {char : Char} (digit : isDigit char = true) :
    (!isExponentMark char) = true := by
  rw [Bool.not_eq_true', isExponentMark, Bool.or_eq_false_iff,
    beq_eq_false_iff_ne, beq_eq_false_iff_ne]
  exact ⟨ne_of_isDigit digit rfl, ne_of_isDigit digit rfl⟩

theorem isWhole_of_isDigit {char : Char} (digit : isDigit char = true) :
    (char != '.' && !isExponentMark char) = true := by
  rw [Bool.and_eq_true, bne_iff_ne]
  exact ⟨ne_of_isDigit digit rfl, isPlace_of_isDigit digit⟩

theorem readMagnitude?_pointed (pointed : Pointed whole places exact) :
    readMagnitude? (whole ++ '.' :: places) =
      let number := nearest (readDigits (readDigits 0 whole) places)
        (-places.length)
      if number == infinity then none else some number := by
  have isWhole := fun char member =>
    isWhole_of_isDigit (pointed.wholeDigits char member)
  have isPlace := fun char member =>
    isPlace_of_isDigit (pointed.placesDigits char member)
  have placesRead := ungroup?_digits pointed.placesFilled pointed.placesDigits
  have noRest : places.dropWhile (fun char => !isExponentMark char) = [] :=
    List.dropWhile_eq_nil_iff.mpr isPlace
  have allPlaces : places.takeWhile (fun char => !isExponentMark char) =
      places :=
    List.takeWhile_eq_self_iff.mpr isPlace
  unfold readMagnitude?
  dsimp only
  rw [List.takeWhile_append_of_pos isWhole,
    List.dropWhile_append_of_pos isWhole,
    List.takeWhile_cons_of_neg (by decide),
    List.dropWhile_cons_of_neg (by decide), List.append_nil,
    wholeDigits?_pointed pointed]
  simp only [Option.bind_eq_bind, Option.bind_some, allPlaces, noRest,
    placesRead, Option.pure_def, zero_sub]

end Reading

theorem isBare_of_isDigit {char : Char} (digit : isDigit char = true) :
    isBare char = true := by
  have range : '0' ≤ char ∧ char ≤ '9' := by
    by_contra outside
    rw [isDigit, digitValue?, if_neg outside] at digit
    exact nomatch digit
  have alphanumeric : char.isAlphanum = true := by
    simp only [Char.isAlphanum, Char.isDigit, Bool.or_eq_true, Bool.and_eq_true,
      decide_eq_true_eq]
    exact .inr range
  simp [isBare, alphanumeric]

/-! ### Floats -/

/-- Texts of floats without a sign, and the floats they are read as. -/
inductive Unsigned : List Char → Float → Prop where
  | infinite : Unsigned "inf".toList infinity
  | pointed {whole places : List Char} {exact : Rat} {magnitude : Float}
      (pointed : Pointed whole places exact)
      (read : readMagnitude? (whole ++ '.' :: places) = some magnitude) :
      Unsigned (whole ++ '.' :: places) magnitude

open Float.Model in
theorem beq_infinity {number : Float} {sign : UnpackedFloat.Sign}
    {mantissa : Nat} {exponent : Int} {positive : 0 < mantissa}
    (finite : number.toModel.unpack =
      .finite sign mantissa exponent positive) :
    ¬ (number == infinity) = true := by
  change ¬ (number.toModel.unpack.compare (.infinity .positive) == some .eq) =
    true
  rw [finite]
  cases sign <;> exact nofun

open FloatModel in
/-- The digits of a finite number are read as that number. -/
theorem unsigned_magnitude {mantissa : Nat} {exponent : Int}
    (canonical : Canonical mantissa exponent) :
    ∃ magnitude : Float,
      Unsigned (Layout.settings.magnitude mantissa exponent) magnitude ∧
      magnitude.toModel.unpack =
        .finite .positive mantissa exponent canonical.positive := by
  obtain ⟨exact, spells, inside⟩ := spells_shortest .up canonical
  obtain ⟨whole, places, written, pointed⟩ :=
    pointed_positionalChars spells (small_shortest _ _ _)
  have text : Layout.settings.magnitude mantissa exponent =
      whole ++ '.' :: places := by
    rw [← written, Layout.magnitude, if_neg canonical.positive.ne']
    rfl
  rw [pointed.value] at inside
  have filled : 0 < readDigits (readDigits 0 whole) places := by
    by_contra zero
    rw [Nat.eq_zero_of_not_pos zero, Nat.cast_zero, zero_div] at inside
    have above := (inside.magnitude canonical).1
    exact absurd above (not_le.mpr (by positivity))
  have read := nearest_eq filled (List.length_pos_iff.mpr pointed.placesFilled)
    canonical inside
  refine ⟨_, text ▸ .pointed pointed ?_, read⟩
  rw [readMagnitude?_pointed pointed]
  exact if_neg (beq_infinity read)

open Float.Model in
theorem withSign_negative {number magnitude : Float}
    (negated : number.toModel.unpack = magnitude.toModel.unpack.neg) :
    number = withSign true magnitude :=
  FloatModel.eq_of_unpack (negated.trans (FloatModel.unpack_neg _).symm)

open FloatModel in
theorem unsigned_chars {number : Float} (defined : number.isNaN = false) :
    ∃ negative body magnitude,
      Layout.settings.chars number =
        (if negative then '-' :: body else body) ∧
      Unsigned body magnitude ∧ number = withSign negative magnitude := by
  unfold Layout.chars
  rw [ofFloat_eq]
  cases unpacked : number.toModel.unpack with
  | notANumber =>
      change number.toModel.unpack.isNaN = false at defined
      rw [unpacked] at defined
      exact nomatch defined
  | infinity sign =>
      refine ⟨sign == .negative, "inf".toList, infinity, ?_, .infinite, ?_⟩
      · cases sign <;> rfl
      · cases sign with
        | positive => exact eq_of_unpack unpacked
        | negative => exact withSign_negative unpacked
  | zero sign =>
      have none : readDigits (readDigits 0 ['0']) ['0'] = 0 := rfl
      have pointed : Pointed ['0'] ['0'] 0 :=
        ⟨isDigit_replicate 1, .inl rfl, isDigit_replicate 1, by decide, by
          rw [none, Nat.cast_zero, zero_div]⟩
      refine ⟨sign == .negative, ['0', '.', '0'], 0.0, ?_,
        .pointed pointed ?_, ?_⟩
      · cases sign <;> rfl
      · rfl
      · cases sign with
        | positive => exact eq_of_unpack unpacked
        | negative => exact withSign_negative unpacked
  | finite sign mantissa exponent positive =>
      obtain ⟨magnitude, written, read⟩ :=
        unsigned_magnitude (canonical_of_unpack unpacked)
      refine ⟨sign == .negative, _, magnitude, ?_, written, ?_⟩
      · cases sign <;> rfl
      · cases sign with
        | positive => exact eq_of_unpack (unpacked.trans read.symm)
        | negative =>
            apply withSign_negative
            rw [unpacked, read]
            rfl

/-! ### Bare values -/

/-- A text with a minus in front of it or not. -/
def signed (negative : Bool) (body : List Char) : List Char :=
  if negative then '-' :: body else body

theorem follow?_eq_none {expected : Char} {chars : List Char}
    (missing : expected ∉ chars) : follow? expected chars = none := by
  cases chars with
  | nil => rfl
  | cons char rest =>
      refine if_neg fun same => missing ?_
      rw [same]
      exact List.mem_cons_self

theorem fixedDigits?_eq_some {count value : Nat} {chars rest : List Char}
    (read : fixedDigits? count chars = some (value, rest)) :
    rest = chars.drop count := by
  unfold fixedDigits? at read
  cases found : readNatural? (chars.take count) with
  | none =>
      rw [found] at read
      exact nomatch read
  | some number =>
      rw [found] at read
      change (if _ then none else some (number, chars.drop count)) = _ at read
      split_ifs at read
      cases read
      rfl

theorem readClock?_eq_none {chars : List Char} (noColon : ':' ∉ chars) :
    readClock? chars = none := by
  unfold readClock?
  cases found : fixedDigits? 2 chars with
  | none => rfl
  | some read =>
      obtain ⟨hour, rest⟩ := read
      obtain rfl := fixedDigits?_eq_some found
      have none : follow? ':' (chars.drop 2) = none :=
        follow?_eq_none fun member => noColon (List.mem_of_mem_drop member)
      simp [none]

theorem readDate?_eq_none {chars : List Char} (noDash : '-' ∉ chars.tail) :
    readDate? chars = none := by
  unfold readDate?
  cases found : fixedDigits? 4 chars with
  | none => rfl
  | some read =>
      obtain ⟨year, rest⟩ := read
      obtain rfl := fixedDigits?_eq_some found
      have none : follow? '-' (chars.drop 4) = none := by
        refine follow?_eq_none fun member => noDash ?_
        rw [← List.drop_one]
        exact (List.drop_sublist_drop_left chars (by decide)).subset member
      simp [none]

/-- A clock needs a colon and a date a second dash, neither of which a number
has. -/
theorem isMoment_eq_false {chars : List Char} (noColon : ':' ∉ chars)
    (noDash : '-' ∉ chars.tail) : isMoment chars = false := by
  have noTime : readTime? chars = none := by
    rw [readTime?, readClock?_eq_none noColon]
    rfl
  rw [isMoment, noTime, readDate?_eq_none noDash]
  rfl

/-- Other characters are no digits of an integer. -/
theorem ungroup?_eq_none {chars : List Char} {mark : Char}
    (member : mark ∈ chars) (other : isDigit mark = false)
    (underscore : mark ≠ '_') : ungroup? isDigit chars = none := by
  fun_induction ungroup? isDigit chars with
  | case1 => rfl
  | case2 digit number =>
      rw [List.mem_singleton.mp member, number] at other
      exact nomatch other
  | case4 digit rest number induction =>
      rcases List.mem_cons.mp member with rfl | later
      · exact nomatch other.symm.trans number
      · have inside := (List.mem_cons.mp later).resolve_left underscore
        rw [induction inside]
        rfl
  | case6 digit rest _ _ number induction =>
      rcases List.mem_cons.mp member with rfl | later
      · exact nomatch other.symm.trans number
      · rw [induction later]
        rfl
  | _ => rfl

theorem Pointed.head {whole places : List Char} {exact : Rat}
    (pointed : Pointed whole places exact) :
    ∃ first rest, whole = first :: rest ∧ isDigit first = true := by
  cases written : whole with
  | nil =>
      rcases pointed.leading with zero | ⟨first, _, found⟩
      · exact nomatch written.symm.trans zero
      · rw [written] at found
        exact nomatch found
  | cons first rest =>
      refine ⟨first, rest, rfl, pointed.wholeDigits first ?_⟩
      rw [written]
      exact List.mem_cons_self

theorem mem_signed {negative : Bool} {body : List Char} {char : Char}
    (member : char ∈ signed negative body) : char = '-' ∨ char ∈ body := by
  cases negative with
  | false => exact .inr member
  | true => exact List.mem_cons.mp member

theorem mem_tail_signed {negative : Bool} {body : List Char} {char : Char}
    (member : char ∈ (signed negative body).tail) : char ∈ body := by
  cases negative with
  | false => exact List.mem_of_mem_tail member
  | true => exact member

namespace Unsigned

variable {body : List Char} {magnitude : Float}

theorem head (unsigned : Unsigned body magnitude) :
    ∃ first rest, body = first :: rest ∧
      (first = 'i' ∨ isDigit first = true) := by
  cases unsigned with
  | infinite => exact ⟨_, _, rfl, .inl rfl⟩
  | pointed pointed read =>
      obtain ⟨first, rest, rfl, digit⟩ := pointed.head
      exact ⟨first, _, rfl, .inr digit⟩

theorem head_ne (unsigned : Unsigned body magnitude) {other : Char}
    (letter : other ≠ 'i') (mark : isDigit other = false)
    (rest : List Char) : body ≠ other :: rest := by
  obtain ⟨first, _, rfl, start⟩ := unsigned.head
  intro same
  obtain rfl : first = other := List.head_eq_of_cons_eq same
  rcases start with rfl | digit
  · exact letter rfl
  · exact nomatch digit.symm.trans mark

/-- Digits, a point and three letters are all there is. -/
theorem not_mem (unsigned : Unsigned body magnitude) {other : Char}
    (letter : other ∉ "inf".toList) (mark : isDigit other = false)
    (point : other ≠ '.') : other ∉ body := by
  cases unsigned with
  | infinite => exact letter
  | pointed pointed read =>
      intro member
      rcases List.mem_append.mp member with whole | later
      · exact nomatch (pointed.wholeDigits other whole).symm.trans mark
      · have place := (List.mem_cons.mp later).resolve_left point
        exact nomatch (pointed.placesDigits other place).symm.trans mark

theorem plain (unsigned : Unsigned body magnitude) :
    ∀ char ∈ body, isBare char = true := by
  cases unsigned with
  | infinite => exact List.all_eq_true.mp rfl
  | pointed pointed read =>
      refine List.forall_mem_append.mpr ⟨fun char member => ?_,
        List.forall_mem_cons.mpr ⟨rfl, fun char member => ?_⟩⟩
      · exact isBare_of_isDigit (pointed.wholeDigits char member)
      · exact isBare_of_isDigit (pointed.placesDigits char member)

theorem splitSign_signed (unsigned : Unsigned body magnitude)
    (negative : Bool) :
    splitSign (signed negative body) = (negative, body) := by
  cases negative with
  | true => rfl
  | false =>
      change splitSign body = (false, body)
      unfold splitSign
      split
      · exact absurd rfl (unsigned.head_ne (by decide) (by decide) _)
      · exact absurd rfl (unsigned.head_ne (by decide) (by decide) _)
      · rfl

theorem signed_ne (unsigned : Unsigned body magnitude) {other : Char}
    (letter : other ≠ 'i') (mark : isDigit other = false) (minus : other ≠ '-')
    (negative : Bool) (rest : List Char) :
    signed negative body ≠ other :: rest := by
  cases negative with
  | true => exact fun same => minus (List.head_eq_of_cons_eq same).symm
  | false => exact unsigned.head_ne letter mark rest

theorem readFloat?_signed (unsigned : Unsigned body magnitude)
    (negative : Bool) :
    readFloat? (signed negative body) =
      some (.float (withSign negative magnitude)) := by
  unfold readFloat?
  rw [unsigned.splitSign_signed]
  dsimp only
  cases unsigned with
  | infinite => rfl
  | @pointed whole places exact magnitude pointed read =>
      obtain ⟨first, rest, written, digit⟩ := pointed.head
      have other (char : Char) (letters : List Char)
          (letter : isDigit char = false) :
          whole ++ '.' :: places ≠ char :: letters := by
        rw [written]
        intro same
        have first := List.head_eq_of_cons_eq same
        exact ne_of_isDigit digit letter first
      have noInfinity : whole ++ '.' :: places ≠ "inf".toList :=
        other 'i' ['n', 'f'] rfl
      have noNan : whole ++ '.' :: places ≠ "nan".toList :=
        other 'n' ['a', 'n'] rfl
      rw [if_neg noInfinity, if_neg noNan, read]
      rfl

/-- A float is no integer of another base. -/
theorem signed_ne_base (unsigned : Unsigned body magnitude) (negative : Bool)
    {mark : Char} (point : mark ≠ '.') (rest : List Char) :
    signed negative body ≠ '0' :: mark :: rest := by
  cases negative with
  | true => exact fun same => absurd (List.head_eq_of_cons_eq same) (by decide)
  | false =>
      change body ≠ _
      cases unsigned with
      | infinite =>
          exact fun same => absurd (List.head_eq_of_cons_eq same) (by decide)
      | @pointed whole places exact magnitude pointed read =>
          intro same
          rcases pointed.leading with rfl | ⟨first, other, found⟩
          · injection same with _ later
            exact point (List.head_eq_of_cons_eq later).symm
          · cases whole with
            | nil => exact nomatch found
            | cons start later =>
                obtain rfl : start = first := Option.some.inj found
                exact other (List.head_eq_of_cons_eq same)

theorem readInteger?_signed (unsigned : Unsigned body magnitude)
    (negative : Bool) : readInteger? (signed negative body) = none := by
  have noInteger : wholeDigits? body = none := by
    unfold wholeDigits?
    cases unsigned with
    | infinite => rfl
    | @pointed whole places exact magnitude pointed read =>
        have point : '.' ∈ whole ++ '.' :: places := by simp
        rw [ungroup?_eq_none point rfl (by decide)]
        rfl
  have decimal {mark : Char} (point : mark ≠ '.') (rest : List Char) :=
    unsigned.signed_ne_base negative point rest
  unfold readInteger?
  split
  · next same => exact absurd same (decimal (by decide) _)
  · next same => exact absurd same (decimal (by decide) _)
  · next same => exact absurd same (decimal (by decide) _)
  · rw [unsigned.splitSign_signed]
    simp only [noInteger]
    rfl

/-- The text of a float is read as that float. -/
theorem readBare?_signed (unsigned : Unsigned body magnitude)
    (negative : Bool) :
    readBare? (signed negative body) =
      some (.float (withSign negative magnitude)) := by
  have noColon : ':' ∉ signed negative body := fun member =>
    (mem_signed member).elim (by decide)
      (unsigned.not_mem (by decide) rfl (by decide))
  have noDash : '-' ∉ (signed negative body).tail := fun member =>
    unsigned.not_mem (by decide) rfl (by decide) (mem_tail_signed member)
  have noTrue : signed negative body ≠ "true".toList :=
    unsigned.signed_ne (by decide) rfl (by decide) negative ['r', 'u', 'e']
  have noFalse : signed negative body ≠ "false".toList :=
    unsigned.signed_ne (by decide) rfl (by decide) negative
      ['a', 'l', 's', 'e']
  unfold readBare?
  rw [if_neg noTrue, if_neg noFalse, isMoment_eq_false noColon noDash,
    unsigned.readInteger?_signed, unsigned.readFloat?_signed]
  rfl

end Unsigned

/-! ### Integers -/

section Integers

variable {number : Nat}

theorem digitChar_eq {digit : Nat} (small : digit < 10) :
    digitChar digit = Nat.digitChar digit := by
  have all : ∀ digit < 10, digitChar digit = Nat.digitChar digit := by decide
  exact all digit small

theorem digitChars_digitsOf (positive : number ≠ 0) :
    digitChars (digitsOf number) = Nat.toDigits 10 number := by
  fun_induction digitsOf number with
  | case1 => exact absurd rfl positive
  | case2 number _ induction =>
      have last : number % 10 < 10 := Nat.mod_lt number (by decide)
      rw [Nat.toDigits_eq_if (by decide), digitChars, List.map_append]
      split_ifs with small
      · rw [Nat.div_eq_of_lt small, digitsOf, if_pos rfl,
          Nat.mod_eq_of_lt small]
        exact congrArg (· :: []) (digitChar_eq small)
      · have more : number / 10 ≠ 0 := by omega
        rw [← induction more]
        exact congrArg (_ ++ [·]) (digitChar_eq last)

theorem toList_toString (number : Nat) :
    (toString number).toList = naturalChars number := by
  refine (Nat.toList_repr).trans ?_
  unfold naturalChars
  split_ifs with zero
  · rw [zero]
    exact Nat.toDigits_zero 10
  · exact (digitChars_digitsOf zero).symm

theorem not_mem_naturalChars {other : Char} (mark : isDigit other = false) :
    other ∉ naturalChars number := fun member =>
  nomatch (isDigit_of_mem_naturalChars member).symm.trans mark

theorem naturalChars_ne {other : Char} (mark : isDigit other = false)
    (rest : List Char) : naturalChars number ≠ other :: rest := by
  intro same
  have member : other ∈ naturalChars number := by
    rw [same]
    exact List.mem_cons_self
  exact not_mem_naturalChars mark member

/-- An integer of base ten is none of another base. -/
theorem naturalChars_ne_base {other : Char} (mark : isDigit other = false)
    (rest : List Char) : naturalChars number ≠ '0' :: other :: rest := by
  intro same
  have member : other ∈ naturalChars number := by
    rw [same]
    exact List.mem_cons_of_mem _ List.mem_cons_self
  exact not_mem_naturalChars mark member

theorem readInteger?_naturalChars
    (fits : (number : Int) ≤ Int64.maxValue.toInt) :
    readInteger? (naturalChars number) =
      some (.integer (Int64.ofInt number)) := by
  have digits : ∀ char ∈ naturalChars number, isDigit char = true :=
    fun _ => isDigit_of_mem_naturalChars
  have lone : ¬ ((naturalChars number).head? = some '0' ∧
      (naturalChars number).length ≠ 1) :=
    fun leading => leading.2 (naturalChars_lone_zero leading.1)
  have whole : wholeDigits? (naturalChars number) =
      some (naturalChars number) := by
    unfold wholeDigits?
    rw [ungroup?_digits (naturalChars_ne_nil number) digits]
    exact if_neg lone
  have unsigned : splitSign (naturalChars number) =
      (false, naturalChars number) := by
    unfold splitSign
    split
    · next same => exact absurd same (naturalChars_ne rfl _)
    · next same => exact absurd same (naturalChars_ne rfl _)
    · rfl
  unfold readInteger?
  split
  · next same => exact absurd same (naturalChars_ne_base rfl _)
  · next same => exact absurd same (naturalChars_ne_base rfl _)
  · next same => exact absurd same (naturalChars_ne_base rfl _)
  · rw [unsigned]
    simp only [whole]
    change boundedInteger? (readDigits 0 (naturalChars number)) = _
    rw [readDigits_naturalChars]
    have least : Int64.minValue.toInt ≤ number :=
      le_trans (by decide) (Int.natCast_nonneg number)
    exact if_pos ⟨least, fits⟩

theorem readBare?_naturalChars
    (fits : (number : Int) ≤ Int64.maxValue.toInt) :
    readBare? (naturalChars number) = some (.integer (Int64.ofInt number)) := by
  have noColon : ':' ∉ naturalChars number := not_mem_naturalChars rfl
  have noDash : '-' ∉ (naturalChars number).tail := fun member =>
    not_mem_naturalChars rfl (List.mem_of_mem_tail member)
  have noTrue : naturalChars number ≠ "true".toList :=
    naturalChars_ne rfl ['r', 'u', 'e']
  have noFalse : naturalChars number ≠ "false".toList :=
    naturalChars_ne rfl ['a', 'l', 's', 'e']
  unfold readBare?
  rw [if_neg noTrue, if_neg noFalse, isMoment_eq_false noColon noDash,
    readInteger?_naturalChars fits]
  rfl

end Integers

end GrammaticalEvolution.Toml
