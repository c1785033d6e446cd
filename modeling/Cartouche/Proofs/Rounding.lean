import Cartouche.Proofs.ExactValues

/-!
The rounding of the machine. A significand with its two residual bits locates the value that it
stands for; shifting keeps that, so what is left at the last place rounds as the value does, and the
packed result is the machine number of the value.
-/
namespace Cartouche
open Float.Model (UnpackedFloat totalExponent)
open Float.Model.UnpackedFloat (Sign Accuracy ExtendedMantissa accuracyOfFraction packComponents
  roundWithAccuracy shiftToExponent shiftToTargetExponent unpackMantissa_packComponents
  unpackExponent_packComponents)

/-- Where a value lies between a significand and the next one, in halves. -/
def Locates : ExtendedMantissa → ℚ → Prop
  | ⟨m, false, false⟩, x => x = m
  | ⟨m, false, true⟩, x => m < x ∧ x < m + 1 / 2
  | ⟨m, true, false⟩, x => x = m + 1 / 2
  | ⟨m, true, true⟩, x => m + 1 / 2 < x ∧ x < m + 1

/-- What a value is rounded to while the exponent has no upper end. -/
inductive IsRounded (q : ℚ) : UnpackedFloat → Prop where
  | zero (s : Sign) (value : nearest q = 0) : IsRounded q (.zero s)
  | finite {m : ℕ} {e : ℤ} (s : Sign) (canonical : IsCanonical m e)
      (value : nearest q = signed s (m * 2 ^ e)) : IsRounded q (.finite s m e canonical.pos)

variable {em : ExtendedMantissa} {acc : Accuracy} {x q : ℚ} {m n k : ℕ} {e t : ℤ} {s : Sign}
  {u : UnpackedFloat}

namespace Locates

theorem bounds (h : Locates em x) : em.mantissa ≤ x ∧ x < em.mantissa + 1 := by
  obtain ⟨m, r, s⟩ := em
  cases r <;> cases s <;> simp only [Locates] at h <;> constructor <;> linarith

theorem floor_eq (h : Locates em x) : ⌊x⌋ = em.mantissa :=
  Int.floor_eq_iff.mpr (by exact_mod_cast h.bounds)

theorem roundedMantissa_eq (h : Locates em x) : (em.roundedMantissa : ℤ) = tieEven x := by
  have hfloor := h.floor_eq
  have hfract : Int.fract x = x - em.mantissa := by rw [Int.fract, hfloor, Int.cast_natCast]
  obtain ⟨m, r, s⟩ := em
  unfold tieEven
  rw [hfloor, hfract]
  cases r <;> cases s <;> simp only [Locates] at h <;>
    simp only [ExtendedMantissa.roundedMantissa, ExtendedMantissa.accuracy,
      Accuracy.roundToNearestEven] <;> split_ifs <;> first | omega | linarith

/-- One place further the last bit becomes the round bit, and all behind it stick. -/
theorem shiftRightOne (h : Locates em x) : Locates em.shiftRightOne (x / 2) := by
  obtain ⟨m, r, s⟩ := em
  have hsplit : (m : ℚ) = 2 * (m / 2 : ℕ) + (m % 2 : ℕ) := by
    exact_mod_cast (Nat.div_add_mod m 2).symm
  rcases Nat.mod_two_eq_zero_or_one m with hbit | hbit <;> rw [hbit] at hsplit <;>
    cases r <;> cases s <;>
    simp [Locates, ExtendedMantissa.shiftRightOne, hbit] at h hsplit ⊢ <;>
    (try constructor) <;> linarith

theorem shiftRight (h : Locates em x) (k : ℕ) : Locates (em >>> k) (x / 2 ^ k) := by
  change Locates (k.repeat ExtendedMantissa.shiftRightOne em) _
  induction k with
  | zero => simpa [Nat.repeat] using h
  | succ k ih =>
    rw [Nat.repeat, pow_succ, ← div_div]
    exact ih.shiftRightOne

end Locates

theorem locates_natCast (m : ℕ) : Locates (.ofMantissaAndAccuracy m .exact) m :=
  rfl

theorem mantissa_ofMantissaAndAccuracy (m : ℕ) (acc : Accuracy) :
    (ExtendedMantissa.ofMantissaAndAccuracy m acc).mantissa = m := by
  rcases acc with _ | ⟨_ | _ | _⟩ <;> rfl

/-- The remainder of a division tells where the quotient lies. -/
theorem locates_quotient (n : ℕ) (hk : 0 < k) :
    Locates (.ofMantissaAndAccuracy (n / k) (accuracyOfFraction (n % k) k)) (n / k) := by
  have hpos : (0 : ℚ) < k := by exact_mod_cast hk
  have hsplit : (n : ℚ) / k = (n / k : ℕ) + (n % k : ℕ) / k := by
    have hcast : (n : ℚ) = k * (n / k : ℕ) + (n % k : ℕ) := by
      exact_mod_cast (Nat.div_add_mod n k).symm
    nth_rewrite 1 [hcast]
    rw [add_div, mul_div_cancel_left₀ _ hpos.ne']
  have hlt : n % k < k := Nat.mod_lt n hk
  rw [hsplit, accuracyOfFraction]
  generalize n % k = r at hlt ⊢
  by_cases hzero : r = 0
  · rw [if_pos hzero, hzero, Nat.cast_zero, zero_div, add_zero]
    exact locates_natCast _
  · rw [if_neg hzero]
    have hrpos : (0 : ℚ) < r / k := div_pos (by exact_mod_cast Nat.pos_of_ne_zero hzero) hpos
    have hrlt : (r : ℚ) / k < 1 := (div_lt_one hpos).mpr (by exact_mod_cast hlt)
    rcases lt_trichotomy (2 * r) k with h | h | h
    · have hhalf : (r : ℚ) / k < 1 / 2 := by
        rw [div_lt_div_iff₀ hpos two_pos]
        exact_mod_cast (by omega : r * 2 < 1 * k)
      rw [compare_lt_iff_lt.mpr h]
      exact ⟨by linarith, by linarith⟩
    · have hhalf : (r : ℚ) / k = 1 / 2 := by
        rw [div_eq_div_iff hpos.ne' two_ne_zero]
        exact_mod_cast (by omega : r * 2 = 1 * k)
      rw [compare_eq_iff_eq.mpr h, hhalf]
      rfl
    · have hhalf : (1 : ℚ) / 2 < r / k := by
        rw [div_lt_div_iff₀ two_pos hpos]
        exact_mod_cast (by omega : 1 * k < r * 2)
      rw [compare_gt_iff_gt.mpr h]
      exact ⟨by linarith, by linarith⟩

/-! The exponent that the machine aims at is the one of the grid around the value. -/

theorem log_eq_log2 (hm : m ≠ 0) (hlow : m ≤ x) (hhigh : x < m + 1) : Int.log 2 x = m.log2 := by
  have hpos : 0 < x := (by exact_mod_cast Nat.pos_of_ne_zero hm : (0 : ℚ) < m).trans_le hlow
  have hle : (2 : ℚ) ^ (m.log2 : ℤ) ≤ x := by
    rw [zpow_natCast]
    exact le_trans (by exact_mod_cast Nat.log2_self_le hm) hlow
  have hlt : x < (2 : ℚ) ^ (m.log2 + 1 : ℤ) := by
    have hsucc : (m : ℚ) + 1 ≤ 2 ^ (m.log2 + 1) := by exact_mod_cast Nat.lt_log2_self
    exact hhigh.trans_le (by exact_mod_cast hsucc)
  have hlower := (Int.zpow_le_iff_le_log one_lt_two hpos).mp hle
  have hupper := (Int.lt_zpow_iff_log_lt one_lt_two hpos).mp hlt
  omega

theorem log_mul_zpow (hx : 0 < x) (e : ℤ) : Int.log 2 (x * 2 ^ e) = Int.log 2 x + e := by
  have hpos : 0 < x * 2 ^ e := mul_pos hx (zpow_pos two_pos e)
  have hlow : (2 : ℚ) ^ (Int.log 2 x + e) ≤ x * 2 ^ e := by
    rw [zpow_add₀ two_ne_zero]
    exact mul_le_mul_of_nonneg_right (Int.zpow_log_le_self one_lt_two hx) (zpow_pos two_pos e).le
  have hhigh : x * 2 ^ e < (2 : ℚ) ^ (Int.log 2 x + e + 1) := by
    rw [add_right_comm, zpow_add₀ two_ne_zero (Int.log 2 x + 1)]
    exact mul_lt_mul_of_pos_right (Int.lt_zpow_succ_log_self one_lt_two x) (zpow_pos two_pos e)
  have hlower := (Int.zpow_le_iff_le_log one_lt_two hpos).mp hlow
  have hupper := (Int.lt_zpow_iff_log_lt one_lt_two hpos).mp hhigh
  omega

theorem targetExponent_eq_gridExponent (hx : 0 < x) (hlow : m ≤ x) (hhigh : x < m + 1)
    (hwide : 2 ^ 52 ≤ m ∨ e ≤ -1074) :
    Float.Model.Format.binary64.targetExponent (totalExponent m e) =
      gridExponent (x * 2 ^ e) := by
  have hpos : 0 < x * 2 ^ e := mul_pos hx (zpow_pos two_pos e)
  rw [targetExponent_eq, gridExponent, abs_of_pos hpos, log_mul_zpow hx]
  by_cases hm : m = 0
  · subst hm
    have hlog : Int.log 2 x < 0 :=
      (Int.lt_zpow_iff_log_lt one_lt_two hx).mp (by simpa using hhigh)
    have hleast : e ≤ -1074 := hwide.resolve_left (by norm_num)
    simp only [Nat.log2_zero]
    omega
  · rw [log_eq_log2 hm hlow hhigh]

/-! The first shift brings the value to its grid, and the second takes up a carry. -/

theorem shiftToTargetExponent_of_lt (hm : m < 2 ^ 53) (he : -1074 ≤ e) :
    shiftToTargetExponent .binary64 m e .exact = (⟨m, false, false⟩, e) := by
  have hlog : m.log2 ≤ 52 := by
    by_cases hzero : m = 0
    · simp [hzero]
    · have hlt := (Nat.log2_lt hzero).mpr hm
      omega
  have hshift : (Float.Model.Format.binary64.targetExponent (totalExponent m e) - e).toNat = 0 := by
    rw [targetExponent_eq]
    omega
  rw [shiftToTargetExponent, shiftToExponent, hshift]
  exact congrArg (Prod.mk _) (add_zero e)

theorem shiftToTargetExponent_carry (he : -1074 ≤ e) :
    shiftToTargetExponent .binary64 (2 ^ 53) e .exact = (⟨2 ^ 52, false, false⟩, e + 1) := by
  have hfull : IsFull (2 ^ 52) := ⟨le_rfl, by norm_num⟩
  have h := hfull.shiftToTargetExponent_eq (k := 1) (e := e + 1) (by omega)
  rwa [Nat.cast_one, add_sub_cancel_right] at h

/-- What rounding ends in, once nothing is left to shift out. -/
def finished (s : Sign) (final : ExtendedMantissa × ℤ) : UnpackedFloat :=
  if h : final.1.mantissa = 0 then .zero s
  else .finite s final.1.mantissa final.2 (Nat.pos_of_ne_zero h)

/-- The last step of rounding, from a rounded significand that may have one bit too many. -/
def carried (s : Sign) (m : ℕ) (e : ℤ) : UnpackedFloat :=
  finished s (shiftToTargetExponent .binary64 m e .exact)

theorem isRounded_carried (hvalue : nearest q = signed s (m * 2 ^ e)) (hm : m ≤ 2 ^ 53)
    (hleast : -1074 ≤ e) (hfull : -1074 < e → 2 ^ 52 ≤ m) : IsRounded q (carried s m e) := by
  unfold carried
  rcases hm.lt_or_eq with hlt | rfl
  · rw [shiftToTargetExponent_of_lt hlt hleast]
    by_cases hzero : m = 0
    · subst hzero
      refine .zero s (hvalue.trans ?_)
      cases s <;> simp [signed]
    · rw [finished, dif_neg hzero]
      exact .finite s ⟨Nat.pos_of_ne_zero hzero, hlt, hleast, by omega⟩ hvalue
  · rw [shiftToTargetExponent_carry hleast, finished, dif_neg (by norm_num)]
    refine .finite s ⟨by norm_num, by norm_num, by omega, Or.inl le_rfl⟩ (hvalue.trans ?_)
    congr 1
    rw [zpow_add_one₀ two_ne_zero]
    norm_num
    ring

theorem nearest_signed (s : Sign) (q : ℚ) : nearest (signed s q) = signed s (nearest q) := by
  cases s with
  | negative => exact nearest_neg q
  | positive => rfl

theorem isRounded_roundWithAccuracy (s : Sign) (hx : 0 < x)
    (hloc : Locates (.ofMantissaAndAccuracy m acc) x) (hwide : 2 ^ 52 ≤ m ∨ e ≤ -1074) :
    IsRounded (signed s (x * 2 ^ e)) (roundWithAccuracy .binary64 s m e acc) := by
  have hbounds := hloc.bounds
  rw [mantissa_ofMantissaAndAccuracy] at hbounds
  have htarget := targetExponent_eq_gridExponent hx hbounds.1 hbounds.2 hwide
  have hpos : 0 < x * 2 ^ e := mul_pos hx (zpow_pos two_pos e)
  obtain ⟨k, hk⟩ : ∃ k : ℕ, gridExponent (x * 2 ^ e) = e + k := by
    refine ⟨(gridExponent (x * 2 ^ e) - e).toNat, ?_⟩
    rw [← htarget, targetExponent_eq]
    rcases hwide with hwide | hwide
    · have hlog : 52 ≤ m.log2 := (Nat.le_log2 (by omega)).mpr hwide
      omega
    · omega
  have hquotient : x * 2 ^ e / grid (x * 2 ^ e) = x / 2 ^ k := by
    rw [grid, hk, zpow_add₀ two_ne_zero, zpow_natCast, mul_comm x,
      mul_div_mul_left _ _ (zpow_ne_zero e two_ne_zero)]
  have hround := (hloc.shiftRight k).roundedMantissa_eq
  rw [← hquotient] at hround
  have hshift : roundWithAccuracy .binary64 s m e acc =
      carried s (ExtendedMantissa.ofMantissaAndAccuracy m acc >>> k).roundedMantissa (e + k) := by
    have hsteps : (e + k - e).toNat = k := by omega
    rw [roundWithAccuracy, shiftToTargetExponent, htarget, hk, shiftToExponent, hsteps]
    rfl
  rw [hshift]
  apply isRounded_carried
  · rw [nearest_signed, nearest, ← hround, grid, hk, Int.cast_natCast]
  · have hle := tieEven_div_grid_le hpos
    rw [← hround] at hle
    exact_mod_cast hle
  · exact hk ▸ least_le_gridExponent _
  · intro h
    have hle := le_tieEven_div_grid hpos (hk ▸ h)
    rw [← hround] at hle
    exact_mod_cast hle

/-! Packing keeps what has an exponent in range; beyond the range stands the infinity. -/

theorem unpack_infinity (s : Sign) :
    UnpackedFloat.unpack .binary64 (UnpackedFloat.packedInfinity .binary64 s) = .infinity s := by
  cases s <;> rfl

theorem unpack_zero (s : Sign) :
    UnpackedFloat.unpack .binary64 (UnpackedFloat.packedZero .binary64 s) = .zero s := by
  cases s <;> rfl

theorem pack_of_large (hm : 0 < m) (he : 972 ≤ e) :
    UnpackedFloat.pack .binary64 (.finite s m e hm) = UnpackedFloat.packedInfinity .binary64 s := by
  have hbias : (Float.Model.Format.binary64.exponentBias : ℤ) = 1023 := rfl
  have hwidth : (Float.Model.Format.binary64.mantissaBitsWithoutImplicit : ℤ) = 52 := rfl
  have hbits : Float.Model.Format.binary64.exponentBits = 11 := rfl
  rw [UnpackedFloat.pack, if_pos (by rw [hbias, hwidth, hbits]; omega)]

/-- The least exponent with a significand that is not full has a field of zeros. -/
theorem unpack_pack_least (hm : 0 < m) (hlow : m < 2 ^ 52) :
    UnpackedFloat.unpack .binary64 (UnpackedFloat.pack .binary64 (.finite s m (-1074) hm)) =
      .finite s m (-1074) hm := by
  have hbias : (Float.Model.Format.binary64.exponentBias : ℤ) = 1023 := rfl
  have hwidth : (Float.Model.Format.binary64.mantissaBitsWithoutImplicit : ℤ) = 52 := rfl
  have hbits : Float.Model.Format.binary64.exponentBits = 11 := rfl
  have hlog : m.log2 < 52 := (Nat.log2_lt hm.ne').mpr hlow
  have hpack : UnpackedFloat.pack .binary64 (.finite s m (-1074) hm) =
      packComponents .binary64 s 0#11 (BitVec.ofNat 52 m) := by
    have hnarrow : m.log2 + 1 ≠ Float.Model.Format.binary64.mantissaBits := by
      have hfull : Float.Model.Format.binary64.mantissaBits = 53 := rfl
      omega
    rw [UnpackedFloat.pack, if_neg (by rw [hbias, hwidth, hbits]; omega), if_neg hnarrow]
  have htoNat : (BitVec.ofNat 52 m).toNat = m := by
    rw [BitVec.toNat_ofNat]
    omega
  have hne : BitVec.ofNat 52 m ≠ 0#52 := by
    intro h
    have hzero := congrArg BitVec.toNat h
    rw [htoNat, BitVec.toNat_ofNat] at hzero
    omega
  rw [hpack, UnpackedFloat.unpack]
  simp only [unpackExponent_packComponents, unpackMantissa_packComponents,
    unpackSign_packComponents, ofBitVec_toBitVec]
  rw [if_neg (by decide), if_pos trivial, dif_neg hne]
  simp only [htoNat]
  rfl

theorem unpack_pack_of_canonical (h : IsCanonical m e) (he : e ≤ 971) :
    UnpackedFloat.unpack .binary64 (UnpackedFloat.pack .binary64 (.finite s m e h.pos)) =
      .finite s m e h.pos := by
  rcases lt_or_ge m (2 ^ 52) with hlow | hfull
  · obtain rfl : e = -1074 := h.full.resolve_left (by omega)
    exact unpack_pack_least h.pos hlow
  · have hleast := h.least
    obtain ⟨field, rfl⟩ : ∃ field : ℕ, e = field - 1075 := ⟨(e + 1075).toNat, by omega⟩
    exact unpack_pack ⟨hfull, h.high⟩ (by omega) (by omega)

theorem limit_le_mul_zpow (h : IsCanonical m e) (he : 972 ≤ e) : limit ≤ m * 2 ^ e := by
  have hm : (2 : ℚ) ^ 52 ≤ m := by exact_mod_cast h.full.resolve_right (by omega)
  calc limit = 2 ^ 52 * 2 ^ (972 : ℤ) := by rw [limit, ← zpow_natCast, ← zpow_add₀ two_ne_zero]; rfl
    _ ≤ m * 2 ^ e := mul_le_mul hm (zpow_le_zpow_right₀ one_le_two he) (zpow_pos two_pos _).le
      (Nat.cast_nonneg m)

theorem IsRounded.pack (h : IsRounded q u) : RoundsTo q (.ofModel (.pack u)) := by
  have hmodel : ∀ v : UnpackedFloat, (Float.ofModel (.pack v)).toModel.unpack =
      UnpackedFloat.unpack .binary64 (UnpackedFloat.pack .binary64 v) := fun _ => rfl
  cases h with
  | zero s value =>
    refine .within ?_
    rw [rational?, hmodel, UnpackedFloat.pack, unpack_zero, value]
    rfl
  | @finite m e s canonical value =>
    rcases le_or_gt e 971 with he | he
    · refine .within ?_
      rw [rational?, hmodel, unpack_pack_of_canonical canonical he, value]
      rfl
    · have hunpack := (hmodel _).trans ((congrArg _ (pack_of_large (s := s) canonical.pos he)).trans
        (unpack_infinity s))
      have hlarge := limit_le_mul_zpow canonical he
      cases s with
      | positive => exact .above hunpack (value.symm ▸ hlarge)
      | negative => exact .below hunpack (value.symm ▸ neg_le_neg hlarge)

end Cartouche
