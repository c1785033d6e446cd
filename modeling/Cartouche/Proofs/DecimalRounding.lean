import Cartouche.Data.Coercion
import Cartouche.Proofs.Arithmetic
import Cartouche.Proofs.DecimalTexts

/-!
Decimals as machine numbers. Digits and a power of ten are read as the machine number of the decimal
that they write, whichever way the machine takes: one product or quotient of numbers it has, a
significand that is rounded once, or nothing at all for what is far too small or too large. So the
texts of finite numbers are those that write a decimal within the greatest one.
-/
namespace Cartouche
open Decimal Text
open Float.Model (UnpackedFloat Format)
open Float.Model.UnpackedFloat (Sign)

variable {q x : ℚ} {z : Float} {m n : ℕ} {e : ℤ} {u : UnpackedFloat}

/-! Values beyond the numbers of the machine. -/

/-- Far below the least number above zero there is nothing but zero. -/
theorem nearest_eq_zero (hx : 0 ≤ x) (h : x ≤ 2 ^ (-1076 : ℤ)) : nearest x = 0 := by
  have hgrid : grid (2 ^ (-1076 : ℤ)) = 2 ^ (-1074 : ℤ) := by
    have hlog : Int.log 2 |(2 : ℚ) ^ (-1076 : ℤ)| = -1076 := by
      rw [abs_of_pos (zpow_pos two_pos _)]
      exact Int.log_zpow one_lt_two _
    rw [grid, gridExponent, hlog]
    norm_num
  have hquarter : (2 : ℚ) ^ (-1076 : ℤ) / 2 ^ (-1074 : ℤ) = 1 / 4 := by
    rw [← zpow_sub₀ two_ne_zero]
    norm_num
  have htie : tieEven (1 / 4) = 0 := by
    norm_num [tieEven, Int.floor_eq_zero_iff, Int.fract_eq_self.mpr]
  have hleast : nearest (2 ^ (-1076 : ℤ)) = 0 := by
    rw [nearest, hgrid, hquarter, htie, Int.cast_zero, zero_mul]
  exact le_antisymm (hleast ▸ nearest_mono h) (nearest_nonneg hx)

theorem limit_le_nearest (h : limit ≤ x) : limit ≤ nearest x := by
  have hlimit : IsNumber limit := by
    refine ⟨1, 1024, by norm_num, by norm_num, ?_⟩
    rw [limit, Int.cast_one, one_mul]
  exact nearest_of_isNumber hlimit ▸ nearest_mono h

/-- Three binary places are less than one decimal place. -/
theorem two_zpow_le_ten_zpow (h : 0 ≤ e) : (2 : ℚ) ^ (3 * e) ≤ 10 ^ e := by
  rw [zpow_mul]
  exact zpow_le_zpow_left₀ h (by norm_num) (by norm_num)

theorem ten_zpow_le_two_zpow (h : e ≤ 0) : (10 : ℚ) ^ e ≤ 2 ^ (3 * e) := by
  have hup := two_zpow_le_ten_zpow (neg_nonneg.mpr h)
  rw [mul_neg, zpow_neg, zpow_neg] at hup
  exact (inv_le_inv₀ (zpow_pos two_pos _) (zpow_pos (by norm_num) _)).mp hup

theorem limit_le_ten_zpow (h : 400 ≤ e) : limit ≤ 10 ^ e :=
  (zpow_le_zpow_right₀ one_le_two (by omega)).trans (two_zpow_le_ten_zpow (by omega))

namespace RoundsTo

theorem of_tiny (hq : 0 ≤ q) (h : q ≤ 2 ^ (-1076 : ℤ)) (hz : rational? z = some 0) :
    RoundsTo q z :=
  .within (by rw [hz, nearest_eq_zero hq h])

theorem of_huge (h : limit ≤ q) (hz : z.toModel.unpack = .infinity .positive) : RoundsTo q z :=
  .above hz (limit_le_nearest h)

theorem infinite_of_huge (h : RoundsTo q z) (hq : limit ≤ q) :
    z.toModel.unpack = .infinity .positive := by
  have hlarge := limit_le_nearest hq
  cases h with
  | within value =>
    have hsmall := (abs_lt.mp (abs_lt_of_rational? value)).2
    linarith
  | above infinite _ => exact infinite
  | below _ large => linarith [limit_pos]

theorem isFinite_iff (h : RoundsTo q z) : z.isFinite = true ↔ |nearest q| < limit :=
  ⟨fun hz => abs_lt_of_rational? (h.exact_of_isFinite hz),
    fun hq => isFinite_iff_rational?.mpr ⟨_, h.exact_of_abs_lt hq⟩⟩

theorem not_isFinite_of_huge (h : RoundsTo q z) (hq : limit ≤ |nearest q|) :
    ¬ z.isFinite = true :=
  fun hz => hq.not_gt (h.isFinite_iff.mp hz)

end RoundsTo

/-! Digits and a power of ten that are rounded once. -/

/-- The digits are multiplied by the power, or are divided by it. -/
theorem isRounded_scientific (hm : 0 < m) (hhigh : e ≤ 2 ^ 11) (hlow : -(2 ^ 11 + m.log2) ≤ e) :
    IsRounded (m * 10 ^ e) (UnpackedFloat.ofScientific .binary64 m e) := by
  have hbits : Format.binary64.exponentBits = 11 := rfl
  rw [UnpackedFloat.ofScientific, dif_neg hm.ne', hbits, if_neg (by omega), if_neg (by omega)]
  split_ifs with hup
  · obtain ⟨k, rfl⟩ := Int.eq_ofNat_of_zero_le hup
    have hwhole : 0 < m * 10 ^ k := Nat.mul_pos hm (Nat.pow_pos (by norm_num))
    have hwide : 2 ^ 52 ≤ m * 10 ^ k * 2 ^ 53 :=
      (Nat.pow_le_pow_right two_pos (by norm_num)).trans (Nat.le_mul_of_pos_left _ hwhole)
    have hround := isRounded_roundWithAccuracy (m := m * 10 ^ k * 2 ^ 53) (e := 0 - (53 : ℕ))
      .positive (by exact_mod_cast hwide.trans_lt' (by norm_num)) (locates_natCast _) (Or.inl hwide)
    rw [Nat.cast_mul, Nat.cast_pow 2, Nat.cast_ofNat, mul_pow_mul_zpow, zpow_zero, mul_one, signed,
      Nat.mul_right_comm, ← Nat.shiftLeft_eq] at hround
    rw [zpow_natCast]
    exact_mod_cast hround
  · obtain ⟨k, rfl⟩ := Int.exists_eq_neg_ofNat (by omega : e ≤ 0)
    have hpower : 0 < 10 ^ k := Nat.pow_pos (by norm_num)
    have hquotient := isRounded_quotient (e := 0) (d := 0) .positive hm hpower
    rw [signed, zpow_zero, mul_one, mul_one, Nat.cast_pow, Nat.cast_ofNat] at hquotient
    rw [zpow_neg, zpow_natCast, ← div_eq_mul_inv]
    simp only [neg_neg, Int.toNat_natCast]
    exact hquotient

/-- Beyond the exponents of the format no power is computed. -/
theorem roundsTo_scientific (m : ℕ) (e : ℤ) :
    RoundsTo (m * 10 ^ e) (.ofModel (.pack (UnpackedFloat.ofScientific .binary64 m e))) := by
  have hbits : Format.binary64.exponentBits = 11 := rfl
  rcases Nat.eq_zero_or_pos m with rfl | hm
  · rw [Nat.cast_zero, zero_mul]
    exact (isRounded_zero .positive).pack
  have hone : (1 : ℚ) ≤ m := by exact_mod_cast hm
  have hten : (0 : ℚ) < 10 ^ e := zpow_pos (by norm_num) e
  by_cases hhigh : 2 ^ 11 < e
  · rw [UnpackedFloat.ofScientific, dif_neg hm.ne', hbits, if_pos hhigh]
    exact .of_huge ((limit_le_ten_zpow (by omega)).trans (le_mul_of_one_le_left hten.le hone))
      (unpack_pack_infinity _)
  · by_cases hlow : e < -(2 ^ 11 + m.log2)
    · rw [UnpackedFloat.ofScientific, dif_neg hm.ne', hbits, if_neg hhigh, if_pos hlow]
      refine .of_tiny (by positivity) ?_ (rational?_pack_zero _)
      have hdigits : (m : ℚ) ≤ 2 ^ (m.log2 + 1 : ℤ) := by exact_mod_cast Nat.lt_log2_self.le
      calc m * (10 : ℚ) ^ e ≤ 2 ^ (m.log2 + 1 : ℤ) * 2 ^ (3 * e) :=
            mul_le_mul hdigits (ten_zpow_le_two_zpow (by omega)) hten.le (zpow_pos two_pos _).le
        _ = 2 ^ (m.log2 + 1 + 3 * e) := (zpow_add₀ two_ne_zero _ _).symm
        _ ≤ 2 ^ (-1076 : ℤ) := zpow_le_zpow_right₀ one_le_two (by omega)
    · exact (isRounded_scientific hm (by omega) (by omega)).pack

/-! Digits and a power of ten that the machine both has. -/

theorem power_eq_pack (k : Fin 23) : Float.exactlyRepresentablePowersOfTen[k] =
    .ofModel (.pack (.ofNat .binary64 (10 ^ k.val))) := by
  have hmodels : ∀ k : Fin 23, (Float.exactlyRepresentablePowersOfTen[k]).toModel =
      .pack (.ofNat .binary64 (10 ^ k.val)) := by decide
  exact congrArg Float.ofModel (hmodels k)

theorem isNumber_ten_pow (h : n ≤ 22) : IsNumber (10 ^ n) := by
  refine ⟨5 ^ n, n, ?_, by omega, ?_⟩
  · have hpow : (5 : ℤ) ^ n ≤ 5 ^ 22 := pow_le_pow_right₀ (by norm_num) h
    rw [abs_of_pos (by positivity)]
    exact hpow.trans_lt (by norm_num)
  · push_cast
    rw [zpow_natCast, ← mul_pow]
    norm_num

theorem rational?_power (k : Fin 23) :
    rational? Float.exactlyRepresentablePowersOfTen[k] = some (10 ^ k.val) := by
  have hround := roundsTo_ofNat (10 ^ k.val)
  rw [Nat.cast_pow, Nat.cast_ofNat, ← power_eq_pack] at hround
  refine hround.exact_of_isNumber (isNumber_ten_pow (Nat.le_of_lt_succ k.isLt)) ?_
  rw [abs_of_pos (by positivity)]
  calc (10 : ℚ) ^ k.val ≤ 10 ^ 22 := pow_le_pow_right₀ (by norm_num) (by omega)
    _ < 2 ^ (80 : ℤ) := by norm_num
    _ ≤ limit := zpow_le_zpow_right₀ one_le_two (by norm_num)

theorem rational?_toFloat (hm : m < 2 ^ 53) : rational? m.toUInt64.toFloat = some (m : ℚ) := by
  have hnat : m.toUInt64.toNat = m := by
    simp
    omega
  have hcast : m.toUInt64.toFloat = .ofModel (.pack (.ofNat .binary64 m.toUInt64.toNat)) := rfl
  rw [hcast, hnat, rational?_ofNat hm]

/-- Either way the machine number of the decimal is found. -/
theorem roundsTo_ofScientific (m : ℕ) (down : Bool) (k : ℕ) :
    RoundsTo (m * 10 ^ (if down then -(k : ℤ) else k))
      (OfScientific.ofScientific m down k : Float) := by
  change RoundsTo _ (Float.ofScientific m down k)
  -- Digits and power are both numbers, so that their product or quotient is rounded only once.
  by_cases hfast : m < 2 ^ 53 ∧ k ≤ 22
  · have hm := rational?_toFloat hfast.1
    have hpower := rational?_power ⟨k, by omega⟩
    rw [Float.ofScientific, dif_pos hfast]
    cases down with
    | true =>
      rw [if_pos rfl, zpow_neg, zpow_natCast, ← div_eq_mul_inv]
      exact roundsTo_div hm hpower (by positivity)
    | false =>
      rw [if_neg Bool.false_ne_true, zpow_natCast]
      exact roundsTo_mul hm hpower
  · rw [Float.ofScientific, dif_neg hfast]
    cases down with
    | true => exact Int.negOfNat_eq ▸ roundsTo_scientific m (-k)
    | false => exact roundsTo_scientific m k

/-! Signs. -/

theorem signed_neg (s : Sign) (a : ℚ) : signed (-s) a = -signed s a := by
  cases s with
  | negative => exact (neg_neg a).symm
  | positive => rfl

theorem IsRounded.neg (h : IsRounded q u) : IsRounded (-q) u.neg := by
  cases h with
  | zero s value => exact .zero _ (by rw [nearest_neg, value, neg_zero])
  | finite s canonical value => exact .finite _ canonical (by rw [nearest_neg, value, signed_neg])

theorem RoundsTo.neg (h : RoundsTo q z) : RoundsTo (-q) (-z) := by
  have hneg : -z = .ofModel (.pack z.toModel.unpack.neg) := rfl
  rw [hneg]
  cases h with
  | within value =>
    have hround : IsRounded q z.toModel.unpack := by
      rcases value_cases value with ⟨s, hunpack, hzero⟩ | ⟨s, m, e, hm, hunpack, -, hfinite⟩ <;>
        rw [hunpack]
      · exact .zero s hzero
      · exact .finite s hm hfinite
    exact hround.neg.pack
  | above infinite large =>
    rw [infinite]
    exact .below (unpack_pack_infinity _) (by rw [nearest_neg]; exact neg_le_neg large)
  | below infinite large =>
    rw [infinite]
    exact .above (unpack_pack_infinity _) (by rw [nearest_neg]; exact le_neg_of_le_neg large)

/-! Literals. -/

/-- As many digits as a number has tell between which powers of ten it lies. -/
theorem mul_ten_zpow_bounds (hm : 0 < m) {size : ℤ}
    (hsize : (Nat.toDigits 10 m).length + e = size) :
    (10 : ℚ) ^ (size - 1) ≤ m * 10 ^ e ∧ (m : ℚ) * 10 ^ e ≤ 10 ^ size := by
  obtain ⟨k, hk⟩ : ∃ k, (Nat.toDigits 10 m).length = k + 1 :=
    Nat.exists_eq_succ_of_ne_zero (List.length_pos_iff.mpr Nat.toDigits_ne_nil).ne'
  have hhigh : m < 10 ^ (k + 1) := (Nat.length_toDigits_le_iff (by norm_num) k.succ_pos).mp hk.le
  have hlow : 10 ^ k ≤ m := by
    rcases Nat.eq_zero_or_pos k with rfl | hpos
    · exact hm
    · by_contra hless
      have hshort := (Nat.length_toDigits_le_iff (by norm_num) hpos).mpr (not_le.mp hless)
      omega
  have hten : (0 : ℚ) < 10 ^ e := zpow_pos (by norm_num) e
  rw [hk] at hsize
  constructor
  · have hexponent : size - 1 = k + e := by omega
    rw [hexponent, zpow_add₀ (by norm_num), zpow_natCast]
    exact mul_le_mul_of_nonneg_right (by exact_mod_cast hlow) hten.le
  · rw [← hsize, zpow_add₀ (by norm_num), zpow_natCast]
    exact mul_le_mul_of_nonneg_right (by exact_mod_cast hhigh.le) hten.le

namespace Decimal.Literal

/-- The decimal that is written, before any rounding. -/
def exact (l : Literal) : ℚ :=
  if l.negative then -(l.digits * 10 ^ l.exponent) else l.digits * 10 ^ l.exponent

/-- What stands for a literal that is far too large. -/
theorem limit_le_huge : limit ≤ (1 : ℕ) * 10 ^ (400 : ℤ) := by
  rw [Nat.cast_one, one_mul]
  exact limit_le_ten_zpow le_rfl

theorem roundsTo_magnitude (m : ℕ) (e : ℤ) :
    RoundsTo (m * 10 ^ e) (value ⟨false, m, e⟩ : Float) := by
  have hzero : rational? (OfScientific.ofScientific 0 false 0) = some 0 := rfl
  rw [value, if_neg Bool.false_ne_true]
  generalize hsize : ((Nat.toDigits 10 m).length + e : ℤ) = size
  rcases Nat.eq_zero_or_pos m with rfl | hm
  · rw [if_pos (Or.inl rfl), Nat.cast_zero, zero_mul]
    exact roundsTo_self hzero
  · obtain ⟨hlow, hhigh⟩ := mul_ten_zpow_bounds hm hsize
    split_ifs with hsmall hlarge
    · have hdown := hsmall.resolve_left hm.ne'
      refine .of_tiny (by positivity) (hhigh.trans ?_) hzero
      exact (ten_zpow_le_two_zpow (by omega)).trans (zpow_le_zpow_right₀ one_le_two (by omega))
    · refine .of_huge ((limit_le_ten_zpow (by omega)).trans hlow) ?_
      exact (roundsTo_ofScientific 1 false 400).infinite_of_huge limit_le_huge
    · have hexponent : (if decide (e < 0) then -(e.natAbs : ℤ) else e.natAbs) = e := by
        simp only [decide_eq_true_eq]
        split_ifs <;> omega
      have hread := roundsTo_ofScientific m (decide (e < 0)) e.natAbs
      rwa [hexponent] at hread

/-- What a literal is read as is the machine number of the decimal that it writes. -/
theorem roundsTo_value (l : Literal) : RoundsTo l.exact (l.value : Float) := by
  obtain ⟨negative, digits, exponent⟩ := l
  have hmagnitude := roundsTo_magnitude digits exponent
  cases negative with
  | true => exact hmagnitude.neg
  | false => exact hmagnitude

end Decimal.Literal

/-! Texts of numbers. -/

/-- No word is read as a finite number. -/
theorem Decimal.Reading.exists_decimal {r : Reading} (h : (r.value : Float).isFinite = true) :
    ∃ l, r = .decimal l := by
  cases r with
  | decimal l => exact ⟨l, rfl⟩
  | infinity negative =>
    -- An infinity is read as a decimal is that exceeds all numbers.
    have hround := roundsTo_ofScientific 1 false 400
    have hlarge := (limit_le_nearest Literal.limit_le_huge).trans (le_abs_self _)
    cases negative with
    | false => exact absurd h (hround.not_isFinite_of_huge hlarge)
    | true =>
      rw [← abs_neg, ← nearest_neg] at hlarge
      exact absurd h (hround.neg.not_isFinite_of_huge hlarge)
  | nan =>
    have hnan : (Reading.nan.value : Float).isFinite = false := rfl
    exact Bool.noConfusion (hnan.symm.trans h)

theorem finiteNumber?_eq_some_iff {text : String} : finiteNumber? text = some z ↔
    ∃ l, IsDecimal l (trim text.toList) ∧ |nearest l.exact| < limit ∧ l.value = z := by
  have hread : finiteNumber? text = some z ↔
      ∃ r, reading? (trim text.toList) = some r ∧ r.value = z ∧ z.isFinite = true := by
    unfold finiteNumber? read?
    cases reading? (trim text.toList) with
    | none => simp
    | some r =>
      simp only [Option.map_some, Option.some.injEq, exists_eq_left']
      split_ifs with hfinite
      · rw [Option.some.injEq]
        exact ⟨fun h => ⟨h, h ▸ hfinite⟩, And.left⟩
      · constructor
        · rintro ⟨⟩
        · rintro ⟨rfl, hz⟩
          exact absurd hz hfinite
  rw [hread]
  constructor
  · rintro ⟨r, hr, rfl, hfinite⟩
    obtain ⟨l, rfl⟩ := Reading.exists_decimal hfinite
    exact ⟨l, reading?_eq_decimal_iff.mp hr, l.roundsTo_value.isFinite_iff.mp hfinite, rfl⟩
  · rintro ⟨l, hl, hsmall, rfl⟩
    exact ⟨.decimal l, reading?_eq_decimal_iff.mpr hl, rfl,
      l.roundsTo_value.isFinite_iff.mpr hsmall⟩

theorem isSome_finiteNumber?_iff {text : String} : (finiteNumber? text).isSome ↔
    ∃ l, IsDecimal l (trim text.toList) ∧ |nearest l.exact| < limit := by
  rw [Option.isSome_iff_exists]
  constructor
  · rintro ⟨z, hz⟩
    obtain ⟨l, hl, hsmall, -⟩ := finiteNumber?_eq_some_iff.mp hz
    exact ⟨l, hl, hsmall⟩
  · rintro ⟨l, hl, hsmall⟩
    exact ⟨l.value, finiteNumber?_eq_some_iff.mpr ⟨l, hl, hsmall, rfl⟩⟩

/-- A number that is read is the one nearest to the decimal that its text writes. -/
theorem exists_nearest_of_finiteNumber? {text : String} (h : finiteNumber? text = some z) :
    ∃ l, IsDecimal l (trim text.toList) ∧ rational? z = some (nearest l.exact) := by
  obtain ⟨l, hl, hsmall, rfl⟩ := finiteNumber?_eq_some_iff.mp h
  exact ⟨l, hl, l.roundsTo_value.exact_of_abs_lt hsmall⟩

end Cartouche
