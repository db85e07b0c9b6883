import GrammaticalEvolution.Proofs.FloatOrder
import GrammaticalEvolution.Proofs.FloatQuotients
import GrammaticalEvolution.Proofs.FloatSigns

/-!
# Draws from the unit interval

A product of finite numbers is rounded once, to the number nearest to the exact
product.  A draw multiplies an integer of 53 bits by `2 ^ -53`, so that its
exact value lies below one; and since that value needs no more than 53 bits,
rounding does not carry it up to one.
-/

namespace GrammaticalEvolution.FloatModel

open Float.Model Float.Model.UnpackedFloat FloatOrder

section Product

variable {first second : Nat} {upper lower scale : Int}

/-- The product of two mantissas, of which one is full, is fine enough to be
rounded. -/
theorem stands_product (filled : 0 < first) (full : 2 ^ 52 ≤ second) :
    Stands (first * 2 ^ upper * (second * 2 ^ lower)) (first * second)
      (upper + lower) .exact where
  located := by
    change (first * 2 ^ upper * (second * 2 ^ lower) / 2 ^ (upper + lower) :
      Rat) = (first * second : Nat)
    rw [zpow_add₀ two_ne_zero]
    push_cast
    field_simp
  fine := by
    have bits : 52 ≤ (first * second).log2 := by
      have positive : first * second ≠ 0 := by positivity
      rw [Nat.le_log2 positive]
      exact full.trans (Nat.le_mul_of_pos_left second filled)
    omega

/-- The product of two finite numbers is the nearest number to the exact
product. -/
theorem mul_finite (sign otherSign : Sign) (filled : 0 < first)
    (positive : 0 < second) (full : 2 ^ 52 ≤ second)
    (rounds : RoundsAt (first * 2 ^ upper * (second * 2 ^ lower)) scale) :
    ∃ rounded,
      IsNearest (first * 2 ^ upper * (second * 2 ^ lower) / 2 ^ scale)
        rounded ∧
      UnpackedFloat.mul .binary64 (.finite sign first upper filled)
          (.finite otherSign second lower positive) =
        settle (sign * otherSign) rounded scale :=
  (stands_product filled full).round rounds (sign * otherSign)

end Product

/-- A number whose exponent is smaller than that of one lies below one. -/
theorem order_settle_one {rounded : Nat} {scale : Int}
    (small : scale < -53 ∨ scale = -53 ∧ rounded ≠ 2 ^ 53) :
    order (settle .positive rounded scale)
      (.finite .positive (2 ^ 52) (-52) (by decide)) = .lt := by
  rw [order_eq_lt_iff]
  by_cases zero : rounded = 0
  · subst zero
    rw [settle_zero]
    exact .inl (by decide)
  by_cases carried : rounded = 2 ^ 53
  · subst carried
    rw [settle_carry]
    refine .inr ⟨rfl, .inl ?_⟩
    change scale + 1 < -52
    omega
  · rw [settle_short (Nat.pos_of_ne_zero zero) carried]
    refine .inr ⟨rfl, .inl ?_⟩
    change scale < -52
    omega

/-- A draw stands for an integer of 53 bits, scaled down to below one. -/
theorem unpack_unit {word : UInt64} (positive : word.toNat ≠ 0)
    (few : word.toNat < 2 ^ 53) :
    ∃ rounded scale, (scale < -53 ∨ scale = -53 ∧ rounded ≠ 2 ^ 53) ∧
      Packs .positive (settle .positive rounded scale) ∧
      (word.toFloat * 1.1102230246251565e-16).toModel.unpack =
        settle .positive rounded scale := by
  obtain ⟨mantissa, exponent, filled, converted, value⟩ :=
    unpack_toFloat_exact positive few
  have unit : (mantissa * 2 ^ exponent * ((2 ^ 52 : Nat) * 2 ^ (-105 : Int)) :
      Rat) = word.toNat / 2 ^ 53 := by
    rw [value]
    norm_num
    ring
  have above : (0 : Rat) < word.toNat / 2 ^ 53 := by positivity
  have below : (word.toNat / 2 ^ 53 : Rat) < 2 ^ ((-53 : Int) + 53) := by
    have cast : (word.toNat : Rat) < 2 ^ 53 := by exact_mod_cast few
    rw [div_lt_iff₀ (by positivity)]
    norm_num at cast ⊢
    exact cast
  obtain ⟨scale, low, rounds⟩ := exists_roundsAt above below (by decide)
  rw [← unit] at rounds
  obtain ⟨rounded, near, product⟩ :=
    mul_finite .positive .positive filled (Nat.two_pow_pos 52) le_rfl rounds
  have packs := packs_settle rounds near (by omega) .positive
  refine ⟨rounded, scale, ?_, packs, ?_⟩
  · rcases Int.lt_or_eq_of_le low with smaller | rfl
    · exact .inl smaller
    · -- At this scale the exact value is the integer itself.
      have whole : (word.toNat / 2 ^ 53 / 2 ^ (-53 : Int) : Rat) =
          word.toNat := by
        norm_num
        ring
      rw [unit, whole] at near
      obtain rfl := near.unique (isNearest_natCast _)
      exact .inr ⟨rfl, few.ne⟩
  · change (Float.Model.pack (UnpackedFloat.mul .binary64
      word.toFloat.toModel.unpack
      (1.1102230246251565e-16 : Float).toModel.unpack)).unpack = _
    have factor : (1.1102230246251565e-16 : Float).toModel.unpack =
        .finite .positive (2 ^ 52) (-105) (Nat.two_pow_pos 52) := rfl
    rw [converted, factor, product]
    exact packs.unpack_pack

theorem unit_lt_one {word : UInt64} (few : word.toNat < 2 ^ 53) :
    word.toFloat * 1.1102230246251565e-16 < 1.0 := by
  by_cases zero : word.toNat = 0
  · obtain rfl : word = 0 := UInt64.toNat_inj.mp zero
    decide
  · obtain ⟨rounded, scale, small, packs, unpacked⟩ := unpack_unit zero few
    have number :
        (word.toFloat * 1.1102230246251565e-16).isNaN = false := by
      change (word.toFloat *
        1.1102230246251565e-16).toModel.unpack.isNaN = false
      rw [unpacked]
      generalize settle .positive rounded scale = settled at packs
      cases packs <;> rfl
    rw [lt_iff_order number (by decide), unpacked]
    exact order_settle_one small

/-- Every draw lies below one. -/
theorem always_drawUnit_lt_one {ρ : Type} [WordSource ρ] :
    Always (Random.drawUnit : StateM ρ Float) (· < 1.0) := by
  unfold Random.drawUnit
  refine .then_ fun word => .pure (unit_lt_one ?_)
  have bound := word.toNat_lt
  rw [UInt64.toNat_shiftRight, Nat.shiftRight_eq_div_pow]
  change word.toNat / 2 ^ 11 < 2 ^ 53
  omega

end GrammaticalEvolution.FloatModel
