import Cartouche.Legend.Layout
import Cartouche.Proofs.Rounding

/-!
The arithmetic of the machine. On finite operands each operation gives the machine number of the
exact result, zeros and numbers next to zero included; what is not finite spreads.
-/
namespace Cartouche
open Float.Model (UnpackedFloat Format totalExponent)
open Float.Model.UnpackedFloat (Sign decreaseExponent roundWithAccuracy divCore)

variable {x y z : Float} {a b q : ℚ} {m n : ℕ} {e d t : ℤ} {s : Sign} {u v : UnpackedFloat}

/-- What holds a canonical magnitude rounds to itself. -/
theorem isRounded_self (s : Sign) (h : IsCanonical m e) :
    IsRounded (signed s (m * 2 ^ e)) (.finite s m e h.pos) :=
  .finite s h (nearest_of_isNumber (isNumber_signed s h))

theorem isRounded_zero (s : Sign) : IsRounded 0 (.zero s) :=
  .zero s nearest_zero

/-! Widening a significand keeps its value. -/

theorem decreaseExponent_eq (m : ℕ) (e t : ℤ) :
    decreaseExponent m e t = (m * 2 ^ (e - t).toNat, e - (e - t).toNat) := by
  rw [decreaseExponent, Nat.shiftLeft_eq]

theorem mul_pow_mul_zpow (a : ℚ) (k : ℕ) (e : ℤ) : a * 2 ^ k * 2 ^ (e - k) = a * 2 ^ e := by
  rw [mul_assoc, ← zpow_natCast, ← zpow_add₀ two_ne_zero, add_sub_cancel]

theorem isRounded_round (s : Sign) (hm : 0 < m) :
    IsRounded (signed s (m * 2 ^ e)) (UnpackedFloat.round .binary64 s m e) := by
  have htarget := targetExponent_eq m e
  rw [UnpackedFloat.round]
  generalize Format.binary64.targetExponent (totalExponent m e) = t at htarget ⊢
  rw [decreaseExponent_eq]
  generalize hk : (e - t).toNat = k
  have hwidened := isRounded_roundWithAccuracy (m := m * 2 ^ k) (e := e - k) s
    (by exact_mod_cast Nat.mul_pos hm (Nat.two_pow_pos k)) (locates_natCast _) ?_
  · rwa [Nat.cast_mul, Nat.cast_pow, Nat.cast_ofNat, mul_pow_mul_zpow] at hwidened
  · by_cases hleast : e - k ≤ -1074
    · exact Or.inr hleast
    · left
      have hlog : 52 ≤ (m * 2 ^ k).log2 := by
        rw [log2_mul_two_pow hm.ne']
        omega
      exact (Nat.le_log2 (Nat.mul_pos hm (Nat.two_pow_pos k)).ne').mp hlog

theorem isRounded_normalize (i e : ℤ) :
    IsRounded (i * 2 ^ e) (.normalize .binary64 i e .positive) := by
  rw [UnpackedFloat.normalize]
  rcases lt_trichotomy i 0 with h | rfl | h
  · rw [compare_lt_iff_lt.mpr h]
    have hround := isRounded_round (m := (-i).toNat) (e := e) .negative (by omega)
    have hcast : (((-i).toNat : ℕ) : ℚ) = -i := by
      exact_mod_cast Int.toNat_of_nonneg (by omega : 0 ≤ -i)
    rwa [hcast, signed, neg_mul, neg_neg] at hround
  · rw [compare_eq_iff_eq.mpr rfl, Int.cast_zero, zero_mul]
    exact isRounded_zero _
  · rw [compare_gt_iff_gt.mpr h]
    have hround := isRounded_round (m := i.toNat) (e := e) .positive (by omega)
    have hcast : ((i.toNat : ℕ) : ℚ) = i := by exact_mod_cast Int.toNat_of_nonneg h.le
    rwa [hcast] at hround

/-- A magnitude over a common exponent. -/
theorem apply_decreaseExponent (s : Sign) (ht : t ≤ e) :
    ((s.apply (decreaseExponent m e t).1 : ℤ) : ℚ) * 2 ^ t = signed s (m * 2 ^ e) := by
  obtain ⟨k, rfl⟩ : ∃ k : ℕ, t = e - k := ⟨(e - t).toNat, by omega⟩
  have hk : (e - (e - k)).toNat = k := by omega
  have hvalue := mul_pow_mul_zpow m k e
  rw [decreaseExponent_eq, hk]
  cases s <;> simp only [Sign.apply, signed] <;> push_cast <;> linarith

/-! Sums and differences. -/

theorem roundsTo_add (hx : rational? x = some a) (hy : rational? y = some b) :
    RoundsTo (a + b) (x + y) := by
  rw [add_eq_pack]
  apply IsRounded.pack
  rcases value_cases hx with ⟨s, hux, rfl⟩ | ⟨s, m, e, hm, hux, -, rfl⟩ <;>
    rcases value_cases hy with ⟨t, huy, rfl⟩ | ⟨t, n, d, hn, huy, -, rfl⟩ <;> rw [hux, huy]
  · rw [add_zero, UnpackedFloat.add]
    split <;> exact isRounded_zero _
  · rw [zero_add]
    exact isRounded_self t hn
  · rw [add_zero]
    exact isRounded_self s hm
  · have hsum := isRounded_normalize
      (s.apply (decreaseExponent m e (min e d)).1 + t.apply (decreaseExponent n d (min e d)).1)
      (min e d)
    rwa [Int.cast_add, add_mul, apply_decreaseExponent s (min_le_left e d),
      apply_decreaseExponent t (min_le_right e d)] at hsum

theorem roundsTo_sub (hx : rational? x = some a) (hy : rational? y = some b) :
    RoundsTo (a - b) (x - y) := by
  rw [sub_eq_pack]
  apply IsRounded.pack
  rcases value_cases hx with ⟨s, hux, rfl⟩ | ⟨s, m, e, hm, hux, -, rfl⟩ <;>
    rcases value_cases hy with ⟨t, huy, rfl⟩ | ⟨t, n, d, hn, huy, -, rfl⟩ <;> rw [hux, huy]
  · rw [sub_zero, UnpackedFloat.sub]
    split <;> exact isRounded_zero _
  · rw [zero_sub]
    have hself := isRounded_self (-t) hn
    cases t with
    | negative => rwa [signed, neg_neg]
    | positive => exact hself
  · rw [sub_zero]
    exact isRounded_self s hm
  · have hdifference := isRounded_normalize
      (s.apply (decreaseExponent m e (min e d)).1 - t.apply (decreaseExponent n d (min e d)).1)
      (min e d)
    rwa [Int.cast_sub, sub_mul, apply_decreaseExponent s (min_le_left e d),
      apply_decreaseExponent t (min_le_right e d)] at hdifference

/-! Products and quotients. -/

theorem signed_mul_signed (s t : Sign) (p r : ℚ) :
    signed s p * signed t r = signed (s * t) (p * r) := by
  cases s <;> cases t
  · exact neg_mul_neg p r
  · exact neg_mul p r
  · exact mul_neg p r
  · rfl

theorem signed_div_signed (s t : Sign) (p r : ℚ) :
    signed s p / signed t r = signed (s / t) (p / r) := by
  cases s <;> cases t
  · exact neg_div_neg_eq p r
  · exact neg_div r p
  · exact div_neg p
  · rfl

theorem roundsTo_mul (hx : rational? x = some a) (hy : rational? y = some b) :
    RoundsTo (a * b) (x * y) := by
  rw [mul_eq_pack]
  apply IsRounded.pack
  rcases value_cases hx with ⟨s, hux, rfl⟩ | ⟨s, m, e, hm, hux, -, rfl⟩ <;>
    rcases value_cases hy with ⟨t, huy, rfl⟩ | ⟨t, n, d, hn, huy, -, rfl⟩ <;> rw [hux, huy]
  · rw [mul_zero]
    exact isRounded_zero _
  · rw [zero_mul]
    exact isRounded_zero _
  · rw [mul_zero]
    exact isRounded_zero _
  · have hwide : 2 ^ 52 ≤ m * n ∨ e + d ≤ -1074 := by
      have hmpos := hm.pos
      have hnpos := hn.pos
      rcases hm.full with hfull | rfl
      · exact Or.inl (hfull.trans (Nat.le_mul_of_pos_right m hnpos))
      · rcases hn.full with hfull | rfl
        · exact Or.inl (hfull.trans (Nat.le_mul_of_pos_left n hmpos))
        · exact Or.inr (by norm_num)
    have hproduct := isRounded_roundWithAccuracy (m := m * n) (e := e + d) (s * t)
      (by exact_mod_cast Nat.mul_pos hm.pos hn.pos) (locates_natCast _) hwide
    rwa [Nat.cast_mul, zpow_add₀ two_ne_zero, mul_mul_mul_comm, ← signed_mul_signed] at hproduct

/-- The dividend is widened until the whole part of the quotient is full. -/
theorem isRounded_quotient (s : Sign) (hm : 0 < m) (hn : 0 < n) :
    IsRounded (signed s (m * 2 ^ e / (n * 2 ^ d))) (roundWithAccuracy .binary64 s
      (divCore .binary64 m e n d).1 (divCore .binary64 m e n d).2.1
      (divCore .binary64 m e n d).2.2) := by
  have htarget : Format.binary64.targetExponent (totalExponent m e - totalExponent n d) =
      max (m.log2 + e - (n.log2 + d) - 53) (-1074) := by
    have hleast : Format.binary64.minExponent = -1074 := rfl
    have hwidth : Format.binary64.mantissaBits = 53 := rfl
    rw [Format.targetExponent, totalExponent, totalExponent, hleast, hwidth]
    omega
  rw [divCore, htarget]
  generalize ht : min (e - d) (max (m.log2 + e - (n.log2 + d) - 53) (-1074)) = t
  obtain ⟨k, hk⟩ : ∃ k : ℕ, e - d - t = k := ⟨(e - d - t).toNat, by omega⟩
  simp only [hk, Int.toNat_natCast, Nat.shiftLeft_eq]
  have hnpos : (0 : ℚ) < n := by exact_mod_cast hn
  have hmpos : (0 : ℚ) < (m * 2 ^ k : ℕ) := by exact_mod_cast Nat.mul_pos hm (Nat.two_pow_pos k)
  have hwide : 2 ^ 52 ≤ m * 2 ^ k / n ∨ t ≤ -1074 := by
    by_cases hleast : t ≤ -1074
    · exact Or.inr hleast
    · left
      rw [Nat.le_div_iff_mul_le hn]
      have hlog : n.log2 + 53 ≤ (m * 2 ^ k).log2 := by
        rw [log2_mul_two_pow hm.ne']
        omega
      have hpow := (Nat.le_log2 (Nat.mul_pos hm (Nat.two_pow_pos k)).ne').mp hlog
      have hlt := @Nat.lt_log2_self n
      rw [Nat.pow_add] at hpow
      rw [Nat.pow_succ] at hlt
      omega
  have hquotient := isRounded_roundWithAccuracy (e := t) s (div_pos hmpos hnpos)
    (locates_quotient (m * 2 ^ k) hn) hwide
  have hvalue : ((m * 2 ^ k : ℕ) / n * 2 ^ t : ℚ) = m * 2 ^ e / (n * 2 ^ d) := by
    obtain rfl : t = e - d - k := by omega
    rw [mul_div_mul_comm, ← zpow_sub₀ two_ne_zero, div_mul_eq_mul_div, div_mul_eq_mul_div]
    congr 1
    push_cast
    exact mul_pow_mul_zpow m k (e - d)
  rwa [hvalue] at hquotient

theorem roundsTo_div (hx : rational? x = some a) (hy : rational? y = some b) (hb : b ≠ 0) :
    RoundsTo (a / b) (x / y) := by
  rw [div_eq_pack]
  apply IsRounded.pack
  rcases value_cases hy with ⟨t, -, rfl⟩ | ⟨t, n, d, hn, huy, -, rfl⟩
  · exact absurd rfl hb
  · rcases value_cases hx with ⟨s, hux, rfl⟩ | ⟨s, m, e, hm, hux, -, rfl⟩ <;> rw [hux, huy]
    · rw [zero_div]
      exact isRounded_zero _
    · rw [signed_div_signed]
      exact isRounded_quotient (s / t) hm.pos hn.pos

/-! What is not finite spreads, and what is no number comes of nothing but such. -/

theorem unpack_pack_infinity (s : Sign) :
    (Float.ofModel (.pack (.infinity s))).toModel.unpack = .infinity s :=
  unpack_infinity s

theorem isNaN_add (hx : rational? x = some a) (hy : y.isNaN = false) : (x + y).isNaN = false := by
  rcases number_cases hy with ⟨b, hb⟩ | ⟨s, hs⟩
  · exact (roundsTo_add hx hb).isNaN_eq_false
  · have hinfinity : UnpackedFloat.add .binary64 x.toModel.unpack y.toModel.unpack =
        .infinity s := by
      rcases value_cases hx with ⟨t, hux, -⟩ | ⟨t, m, e, hm, hux, -, -⟩ <;> rw [hux, hs] <;> rfl
    rw [add_eq_pack, hinfinity]
    exact isNaN_of_infinity (unpack_pack_infinity s)

theorem isNaN_mul (hx : rational? x = some a) (ha : a ≠ 0) (hy : y.isNaN = false) :
    (x * y).isNaN = false := by
  rcases number_cases hy with ⟨b, hb⟩ | ⟨s, hs⟩
  · exact (roundsTo_mul hx hb).isNaN_eq_false
  · rcases value_cases hx with ⟨t, -, rfl⟩ | ⟨t, m, e, hm, hux, -, -⟩
    · exact absurd rfl ha
    · rw [mul_eq_pack, hux, hs]
      exact isNaN_of_infinity (unpack_pack_infinity (t * s))

theorem rational?_pack_zero (s : Sign) : rational? (.ofModel (.pack (.zero s))) = some 0 := by
  cases s <;> rfl

theorem rational?_div_infinity (hx : rational? x = some a) (hy : y.toModel.unpack = .infinity s) :
    rational? (x / y) = some 0 := by
  rcases value_cases hx with ⟨t, hux, -⟩ | ⟨t, m, e, hm, hux, -, -⟩ <;>
    rw [div_eq_pack, hux, hy] <;>
    exact rational?_pack_zero (t / s)

theorem not_isFinite_pack (hu : u.isFinite = false) :
    (Float.ofModel (.pack u)).isFinite = false := by
  cases u with
  | infinity s => cases s <;> rfl
  | notANumber => rfl
  | zero s => cases hu
  | finite s m e h => cases hu

theorem isFinite_of_add (h : (x + y).isFinite = true) : y.isFinite = true := by
  by_contra hy
  have hy : y.toModel.unpack.isFinite = false := Bool.eq_false_iff.mpr hy
  have hadd : (UnpackedFloat.add .binary64 x.toModel.unpack y.toModel.unpack).isFinite = false := by
    generalize y.toModel.unpack = v at hy ⊢
    cases v with
    | infinity s =>
      cases x.toModel.unpack with
      | infinity t => cases s <;> cases t <;> rfl
      | _ => rfl
    | notANumber => cases x.toModel.unpack <;> rfl
    | zero s => cases hy
    | finite s m e h => cases hy
  exact Bool.noConfusion (h.symm.trans (not_isFinite_pack hadd))

theorem isFinite_of_mul (h : (x * y).isFinite = true) :
    x.isFinite = true ∧ y.isFinite = true := by
  by_contra hxy
  have hmul : (UnpackedFloat.mul .binary64 x.toModel.unpack y.toModel.unpack).isFinite = false := by
    have hxy : ¬ (x.toModel.unpack.isFinite = true ∧ y.toModel.unpack.isFinite = true) := hxy
    generalize x.toModel.unpack = u at hxy ⊢
    generalize y.toModel.unpack = v at hxy ⊢
    cases u <;> cases v <;> first | rfl | exact absurd ⟨rfl, rfl⟩ hxy
  exact Bool.noConfusion (h.symm.trans (not_isFinite_pack hmul))

theorem isFinite_of_div (h : (x / y).isFinite = true) : x.isFinite = true := by
  by_contra hx
  have hx : x.toModel.unpack.isFinite = false := Bool.eq_false_iff.mpr hx
  have hdiv : (UnpackedFloat.div .binary64 x.toModel.unpack y.toModel.unpack).isFinite = false := by
    generalize x.toModel.unpack = u at hx ⊢
    cases u with
    | infinity s => cases y.toModel.unpack <;> rfl
    | notANumber => cases y.toModel.unpack <;> rfl
    | zero s => cases hx
    | finite s m e h => cases hx
  exact Bool.noConfusion (h.symm.trans (not_isFinite_pack hdiv))

/-! Whole numbers. -/

theorem rational?_tenPowZero : rational? tenPowZero = some 1 := by
  rw [rational?, unpack_tenPowZero]
  norm_num [unpackedValue?, signed]

theorem rational?_one : rational? 1 = some 1 :=
  rational?_tenPowZero

theorem roundsTo_ofNat (n : ℕ) : RoundsTo n (.ofModel (.pack (.ofNat .binary64 n))) := by
  have hnormalize := (isRounded_normalize n 0).pack
  rwa [zpow_zero, mul_one] at hnormalize

theorem isNumber_natCast (hn : n < 2 ^ 53) : IsNumber n :=
  ⟨n, 0, by exact_mod_cast hn, by norm_num, by norm_num⟩

theorem RoundsTo.exact_of_isNumber (h : RoundsTo q z) (hq : IsNumber q) (hsmall : |q| < limit) :
    rational? z = some q := by
  have hself := nearest_of_isNumber hq
  rw [h.exact_of_abs_lt (hself.symm ▸ hsmall), hself]

/-- Whole numbers of up to fifty-three bits are kept. -/
theorem rational?_ofNat (hn : n < 2 ^ 53) :
    rational? (.ofModel (.pack (.ofNat .binary64 n))) = some (n : ℚ) := by
  refine (roundsTo_ofNat n).exact_of_isNumber (isNumber_natCast hn) ?_
  rw [abs_of_nonneg (Nat.cast_nonneg n)]
  calc (n : ℚ) < 2 ^ (53 : ℤ) := by exact_mod_cast hn
    _ ≤ limit := zpow_le_zpow_right₀ one_le_two (by norm_num)

end Cartouche
