import Cartouche.Proofs.JsonWriting
import Cartouche.Proofs.Rounding

/-!
What written digits denote. A decimal that counts as reading back lies closer to its magnitude than
to any other, so that the digits found by dropping have that magnitude for their nearest number; and
the JSON text of a finite number denotes a decimal of which it is the machine number.
-/
namespace Cartouche
open Decimal

/-- The digits are those of a JSON number for a decimal. -/
inductive Denotes : List Char → ℚ → Prop
  | positive (numeral : Json.Numeral) : Denotes numeral.text numeral.value
  | negative (numeral : Json.Numeral) : Denotes ('-' :: numeral.text) (-numeral.value)

/-- A JSON number whose decimal has the given one for its machine number. -/
def Json.IsNumber (json : Json) (n : Float) : Prop :=
  ∃ digits q, json = .number digits ∧ Denotes digits.toList q ∧ RoundsTo q n

variable {b : Binary} {x q : ℚ} {k e : ℤ} {m n : ℕ} {negative : Bool} {number : Float}

/-! Values close to an integer round to it. -/

theorem tieEven_of_close (hclose : |x - k| ≤ 1 / 2) (htie : |x - k| = 1 / 2 → k % 2 = 0) :
    tieEven x = k := by
  obtain ⟨hlow, hhigh⟩ := abs_le.mp hclose
  have hsum := Int.floor_add_fract x
  rcases le_or_gt (k : ℚ) x with hkx | hxk
  · have hfloor : ⌊x⌋ = k := Int.floor_eq_iff.mpr ⟨hkx, by linarith⟩
    rw [hfloor] at hsum
    rw [abs_of_nonneg (by linarith)] at htie
    unfold tieEven
    rw [hfloor]
    split_ifs
    · rfl
    · linarith
    · rw [htie (by linarith), add_zero]
  · have hfloor : ⌊x⌋ = k - 1 :=
      Int.floor_eq_iff.mpr ⟨by push_cast; linarith, by push_cast; linarith⟩
    rw [hfloor] at hsum
    push_cast at hsum
    rw [abs_of_neg (by linarith)] at htie
    unfold tieEven
    rw [hfloor]
    split_ifs
    · linarith
    · omega
    · have heven := htie (by linarith)
      omega

theorem nearest_of_gridExponent (he : gridExponent (x * 2 ^ e) = e) (htie : tieEven x = k) :
    nearest (x * 2 ^ e) = k * 2 ^ e := by
  rw [nearest, grid, he, mul_div_cancel_right₀ _ (zpow_ne_zero e two_ne_zero), htie]

/-- Below a power of two the grid is twice as fine. -/
structure IsNearSignificand (m : ℕ) (e : ℤ) (x : ℚ) : Prop where
  close : |x - (m : ℤ)| ≤ 1 / 2
  tie : |x - (m : ℤ)| = 1 / 2 → (m : ℤ) % 2 = 0
  narrow : m = 2 ^ 52 → -1074 < e → (m : ℚ) - 1 / 4 ≤ x

theorem nearest_of_isNearSignificand (hm : IsCanonical m e)
    (h : IsNearSignificand m e x) : nearest (x * 2 ^ e) = m * 2 ^ e := by
  obtain ⟨hlow, hhigh⟩ := abs_le.mp h.close
  push_cast at hlow hhigh
  have hpos : (1 : ℚ) ≤ m := by exact_mod_cast hm.pos
  have hx : 0 < x := by linarith
  have htop : x < 2 ^ (53 : ℤ) := by
    have hsucc : (m : ℚ) + 1 ≤ 2 ^ (53 : ℤ) := by exact_mod_cast hm.high
    linarith
  have hlog : Int.log 2 x < 53 := (Int.lt_zpow_iff_log_lt one_lt_two hx).mp htop
  have hgrid : gridExponent (x * 2 ^ e) = max (Int.log 2 x + e - 52) (-1074) := by
    rw [gridExponent, abs_of_pos (mul_pos hx (zpow_pos two_pos e)), log_mul_zpow hx]
  have hself : gridExponent (x * 2 ^ e) = e → nearest (x * 2 ^ e) = m * 2 ^ e := by
    intro he
    have hnearest := nearest_of_gridExponent he (tieEven_of_close h.close h.tie)
    rwa [Int.cast_natCast] at hnearest
  have hleast := hm.least
  rcases le_or_gt ((2 : ℚ) ^ (52 : ℤ)) x with hfull | hbelow
  · have hge := (Int.zpow_le_iff_le_log one_lt_two hx).mp hfull
    exact hself (by omega)
  rcases hleast.eq_or_lt with rfl | hleast
  · exact hself (by omega)
  -- The value is next to a power of two from below, where the last place counts half as much.
  have hsignificand : m = 2 ^ 52 := by
    have hge := hm.full.resolve_right hleast.ne'
    by_contra hne
    have hgt : (2 : ℚ) ^ (52 : ℤ) + 1 ≤ m := by exact_mod_cast (by omega : 2 ^ 52 + 1 ≤ m)
    linarith
  have hnarrow := h.narrow hsignificand hleast
  subst hsignificand
  push_cast at hnarrow
  have hge : (51 : ℤ) ≤ Int.log 2 x := by
    refine (Int.zpow_le_iff_le_log one_lt_two hx).mp ?_
    norm_num at hnarrow ⊢
    linarith
  have hlt := (Int.lt_zpow_iff_log_lt one_lt_two hx).mp hbelow
  have hhalf : x * 2 ^ e = (2 * x) * 2 ^ (e - 1) := by
    rw [zpow_sub_one₀ two_ne_zero]
    ring
  have hround : tieEven (2 * x) = 2 ^ 53 := by
    refine tieEven_of_close ?_ fun _ => by norm_num
    rw [abs_le]
    norm_num at hnarrow hbelow ⊢
    constructor <;> linarith
  rw [hhalf, nearest_of_gridExponent (hhalf ▸ by omega) hround, zpow_sub_one₀ two_ne_zero]
  push_cast
  ring

/-! Digits that are found read back. -/

/-- What reads back lies between two ends, and at neither where the significand is odd. -/
theorem readsBack_iff (hb : b.significand ≠ 0) : b.readsBack n = true ↔
    (4 * b.grains ≤ 4 * n + (if b.narrowBelow then b.unit else 2 * b.unit) ∧
      4 * n ≤ 4 * b.grains + 2 * b.unit) ∧
    (b.significand % 2 = 1 →
      4 * b.grains < 4 * n + (if b.narrowBelow then b.unit else 2 * b.unit) ∧
        4 * n < 4 * b.grains + 2 * b.unit) := by
  have hunit := Json.unit_pos b
  have hgrains : b.unit ≤ b.grains := Nat.le_mul_of_pos_left _ (Nat.pos_of_ne_zero hb)
  have hwidth : (if b.narrowBelow then b.unit else 2 * b.unit) ≤ 2 * b.unit := by split <;> omega
  unfold Binary.readsBack
  dsimp only
  generalize (if b.narrowBelow then b.unit else 2 * b.unit) = width at hwidth
  by_cases heven : b.significand % 2 = 0
  · simp only [heven, if_true, Bool.and_eq_true, decide_eq_true_eq]
    omega
  · simp only [heven, if_false, Bool.and_eq_true, decide_eq_true_eq]
    omega

theorem readsBack_grains (hb : b.significand ≠ 0) : b.readsBack b.grains = true := by
  have hunit := Json.unit_pos b
  rw [readsBack_iff hb]
  split <;> omega

theorem digitsValue_ofNat (n : ℕ) (e : ℤ) : Json.digitsValue (.ofNat n e) = n * 10 ^ e := by
  have hsplit := List.rdropWhile_append_rtakeWhile (p := (· == '0')) (l := digitsOf n)
  have hzeros : (digitsOf n).rtakeWhile (· == '0') =
      List.replicate ((digitsOf n).rtakeWhile (· == '0')).length '0' :=
    List.eq_replicate_iff.mpr ⟨rfl, fun c hc => by simpa using List.mem_rtakeWhile_imp hc⟩
  have hdigits : (Digits.ofNat n e).digits = (digitsOf n).rdropWhile (· == '0') := rfl
  have hpoint : (Digits.ofNat n e).point = (digitsOf n).length + e := rfl
  rw [Json.digitsValue, hdigits, hpoint]
  generalize ((digitsOf n).rtakeWhile (· == '0')).length = zeros at hzeros
  generalize (digitsOf n).rdropWhile (· == '0') = kept at hsplit
  rw [hzeros] at hsplit
  have hvalue : natOfDigits kept * 10 ^ zeros = n := by
    rw [← natOfDigits_append_zeros, hsplit, natOfDigits_digitsOf]
  have hlength : ((digitsOf n).length : ℤ) + e - kept.length = e + zeros := by
    rw [← hsplit, List.length_append, List.length_replicate]
    omega
  have hcast : (natOfDigits kept * 10 ^ zeros : ℚ) = n := by exact_mod_cast hvalue
  rw [hlength, zpow_add₀ (by norm_num), zpow_natCast, ← hcast]
  ring

/-- The digits of the search are a multiple of some grid that reads back. -/
theorem exists_readsBack (hb : b.significand ≠ 0) (tieUp : Bool) :
    ∃ n : ℕ, b.readsBack n = true ∧ Json.digitsValue (b.shortest tieUp) = n * 10 ^ b.scale := by
  unfold Binary.shortest
  generalize (digitsOf b.grains).length - 1 = dropped
  induction dropped with
  | zero => exact ⟨b.grains, readsBack_grains hb, digitsValue_ofNat _ _⟩
  | succ dropped ih =>
    rw [Binary.search]
    cases hn : b.neighbour? tieUp (dropped + 1) with
    | none => exact ih
    | some n =>
      refine ⟨n * Nat.pow 10 (dropped + 1), Json.neighbour?_readsBack hn, ?_⟩
      rw [digitsValue_ofNat, zpow_add₀ (by norm_num), zpow_natCast, Nat.pow_eq, Nat.cast_mul,
        Nat.cast_pow, Nat.cast_ofNat, mul_assoc, mul_comm (10 ^ b.scale)]

theorem unit_mul_scale (b : Binary) : (b.unit : ℚ) * 10 ^ b.scale = 2 ^ b.exponent := by
  unfold Binary.unit Binary.scale
  simp only [Nat.pow_eq]
  split
  · next h =>
    obtain ⟨k, hk⟩ := Int.eq_ofNat_of_zero_le h
    rw [min_eq_right h, hk]
    simp
  · next h =>
    obtain ⟨k, hk⟩ : ∃ k : ℕ, b.exponent = -k := ⟨(-b.exponent).toNat, by omega⟩
    have hten : (10 : ℚ) ^ k = 5 ^ k * 2 ^ k := by rw [← mul_pow]; norm_num
    rw [min_eq_left (by omega), hk]
    simp only [neg_neg, Int.toNat_natCast, zpow_neg, zpow_natCast, hten]
    push_cast
    field_simp

/-- On the grid of the magnitude what reads back is close to the significand. -/
theorem isNearSignificand_of_readsBack (hb : b.significand ≠ 0)
    (hnarrow : b.significand = 2 ^ 52 → -1074 < b.exponent → b.narrowBelow = true)
    (h : b.readsBack n = true) : IsNearSignificand b.significand b.exponent (n / b.unit) := by
  have hunit := Json.unit_pos b
  have hpos : (0 : ℚ) < b.unit := by exact_mod_cast hunit
  have hcast : (b.grains : ℚ) = b.significand * b.unit := by rw [Binary.grains, Nat.cast_mul]
  obtain ⟨⟨hlow, hhigh⟩, hodd⟩ := (readsBack_iff hb).mp h
  have hwidth : (if b.narrowBelow then b.unit else 2 * b.unit) ≤ 2 * b.unit := by split <;> omega
  have hdiff : (n / b.unit - (b.significand : ℤ) : ℚ) = (n - b.grains) / b.unit := by
    rw [hcast, Int.cast_natCast]
    field_simp
  have hlowQ : (4 * b.grains : ℚ) ≤ 4 * n + 2 * b.unit := by exact_mod_cast hlow.trans (by omega)
  have hhighQ : (4 * n : ℚ) ≤ 4 * b.grains + 2 * b.unit := by exact_mod_cast hhigh
  constructor
  · rw [hdiff, abs_le, le_div_iff₀ hpos, div_le_iff₀ hpos]
    constructor <;> linarith
  · intro htie
    by_contra hne
    obtain ⟨hl, hh⟩ := hodd (by omega)
    have hlQ : (4 * b.grains : ℚ) < 4 * n + 2 * b.unit := by exact_mod_cast hl.trans_le (by omega)
    have hhQ : (4 * n : ℚ) < 4 * b.grains + 2 * b.unit := by exact_mod_cast hh
    have hstrict : |(n / b.unit - (b.significand : ℤ) : ℚ)| < 1 / 2 := by
      rw [hdiff, abs_lt, lt_div_iff₀ hpos, div_lt_iff₀ hpos]
      constructor <;> linarith
    linarith
  · intro hm he
    rw [if_pos (hnarrow hm he)] at hlow
    have hlowQ : (4 * b.grains : ℚ) ≤ 4 * n + b.unit := by exact_mod_cast hlow
    rw [le_div_iff₀ hpos]
    linarith

/-- The digits chosen for a magnitude have it for their nearest number. -/
theorem nearest_shortest (hb : IsCanonical b.significand b.exponent)
    (hnarrow : b.significand = 2 ^ 52 → -1074 < b.exponent → b.narrowBelow = true)
    (tieUp : Bool) :
    nearest (Json.digitsValue (b.shortest tieUp)) = b.significand * 2 ^ b.exponent := by
  obtain ⟨n, hreads, hvalue⟩ := exists_readsBack hb.pos.ne' tieUp
  have hpos : (0 : ℚ) < b.unit := by exact_mod_cast Json.unit_pos b
  have hgrid : (n * 10 ^ b.scale : ℚ) = n / b.unit * 2 ^ b.exponent := by
    rw [← unit_mul_scale]
    field_simp
  rw [hvalue, hgrid]
  exact nearest_of_isNearSignificand hb (isNearSignificand_of_readsBack hb.pos.ne' hnarrow hreads)

/-! The JSON of a number. -/

theorem rational?_of_decode (hx : decode number = .finite negative b) :
    rational? number = some (signed (signOf negative) (b.significand * 2 ^ b.exponent)) := by
  have h := reads number
  rw [hx] at h
  rw [rational?]
  generalize number.toModel.unpack = u at h ⊢
  cases h with
  | zero hfield hfraction =>
    rw [Nat.cast_zero, zero_mul, signed_zero]
    rfl
  | least hfield hpos => rfl
  | full hpos hfield hfull => rfl

theorem canonical_of_decode (hx : decode number = .finite negative b) (hb : b.significand ≠ 0) :
    IsCanonical b.significand b.exponent ∧
      (b.significand = 2 ^ 52 → -1074 < b.exponent → b.narrowBelow = true) := by
  have h := reads number
  have hfraction := Nat.mod_lt number.toBits.toNat (Nat.two_pow_pos 52)
  generalize number.toBits.toNat % 2 ^ 52 = fraction at h hfraction
  rw [hx] at h
  generalize number.toModel.unpack = u at h
  cases h with
  | zero hfield hzero => exact absurd rfl hb
  | least hfield hpos =>
    exact ⟨⟨hpos, by dsimp only; omega, le_rfl, Or.inr rfl⟩, fun _ he => absurd he (lt_irrefl _)⟩
  | full hpos hfield hfull =>
    refine ⟨⟨hfull, ?_, ?_, Or.inl (Nat.le_add_right _ _)⟩, ?_⟩
    · dsimp only
      omega
    · dsimp only
      omega
    · intro hm he
      dsimp only at hm he
      simp only [Bool.and_eq_true, beq_iff_eq, decide_eq_true_eq]
      omega

theorem denotes_signed (negative : Bool) (numeral : Json.Numeral) :
    Denotes (if negative then '-' :: numeral.text else numeral.text)
      (signed (signOf negative) numeral.value) := by
  cases negative with
  | false => exact .positive numeral
  | true => exact .negative numeral

namespace Json

/-- The digits of a finite number denote a decimal that rounds to it. -/
theorem isNumber_ofFloat (hfinite : number.isFinite = true) : (ofFloat number).IsNumber number := by
  obtain ⟨a, ha⟩ := isFinite_iff_rational?.mp hfinite
  obtain ⟨negative, b, hdecode, -⟩ := decode_of_rational? ha
  have hvalue := rational?_of_decode hdecode
  obtain ⟨numeral, htext, hnumeral⟩ := exists_numeral_magnitude (show form64.pointZero from rfl) b
  have hwrite : (form64.write number).toList =
      if negative then '-' :: numeral.text else numeral.text := by
    have hkeeps : (negative && (form64.signedZero || b.significand != 0)) = negative :=
      Bool.and_true negative
    rw [Form.write, hdecode, String.toList_ofList, Form.decoded, hkeeps, htext]
  refine ⟨form64.write number, _, rfl, hwrite ▸ denotes_signed negative numeral, .within ?_⟩
  rw [hvalue, nearest_signed, hnumeral]
  split
  · next hb => rw [hb, Nat.cast_zero, zero_mul, nearest_zero]
  · next hb =>
    obtain ⟨hcanonical, hnarrow⟩ := canonical_of_decode hdecode hb
    rw [nearest_shortest hcanonical hnarrow]

theorem rational?_of_toInt? {i : ℤ} (hi : (decode number).toInt? = some i) :
    rational? number = some (i : ℚ) := by
  obtain ⟨negative, b, hdecode, hint, rfl⟩ := parts_of_toInt? hi
  have hmul : (b.significand * 2 ^ b.exponent.toNat : ℚ) =
      b.truncated * 2 ^ (-b.exponent).toNat := by exact_mod_cast significand_mul_eq hint
  have hvalue : (b.significand * 2 ^ b.exponent : ℚ) = b.truncated := by
    rcases le_total 0 b.exponent with he | he
    · have hzero : (-b.exponent).toNat = 0 := by omega
      rw [hzero, pow_zero, mul_one] at hmul
      rw [← hmul, ← zpow_natCast, Int.toNat_of_nonneg he]
    · have hzero : b.exponent.toNat = 0 := by omega
      rw [hzero, pow_zero, mul_one] at hmul
      rw [hmul, mul_assoc, ← zpow_natCast, Int.toNat_of_nonneg (by omega),
        ← zpow_add₀ two_ne_zero, neg_add_cancel, zpow_zero, mul_one]
  rw [rational?_of_decode hdecode, hvalue]
  cases negative <;> simp [signed, signOf]

theorem isNumber_ofInt {i : ℤ} (hi : (decode number).toInt? = some i) :
    (ofInt i).IsNumber number := by
  obtain ⟨numeral, htext, hwhole, hfraction, hexponent⟩ := exists_numeral_digitsOf i.natAbs
  have hvalue : numeral.value = i.natAbs := by
    simp [Numeral.value, Numeral.power, hwhole, hfraction, hexponent, natOfDigits_digitsOf]
  have hsigned : signed (signOf (decide (i < 0))) numeral.value = i := by
    rw [hvalue, Nat.cast_natAbs]
    rcases lt_or_ge i 0 with h | h
    · rw [decide_eq_true h, signOf, if_pos rfl, signed, abs_of_neg h, Int.cast_neg, neg_neg]
    · rw [decide_eq_false h.not_gt, signOf, if_neg Bool.false_ne_true, signed, abs_of_nonneg h]
  refine ⟨_, i, rfl, ?_, roundsTo_self (rational?_of_toInt? hi)⟩
  have hdenotes := denotes_signed (decide (i < 0)) numeral
  rw [hsigned, htext] at hdenotes
  simpa using hdenotes

/-- A finite number is written as a JSON number equal to it, -/
theorem isNumber_numberJson (hfinite : number.isFinite = true) :
    (numberJson number).IsNumber number := by
  unfold numberJson
  split
  · next i hi =>
    split
    · exact isNumber_ofInt hi
    · exact isNumber_ofFloat hfinite
  · exact isNumber_ofFloat hfinite

theorem forms_of_not_isFinite (h : number.isFinite = false) : (decode number).toInt? = none ∧
    form64.decoded (decode number) = "null".toList := by
  have hfinite : number.toModel.unpack.isFinite = false := h
  have h := reads number
  generalize number.toModel.unpack = u at h hfinite
  generalize decode number = d at h ⊢
  cases h with
  | infinite hfield hfraction => exact ⟨rfl, rfl⟩
  | nan hfield hfraction => exact ⟨rfl, rfl⟩
  | zero hfield hfraction => cases hfinite
  | least hfield hpos => cases hfinite
  | full hpos hfield hfull => cases hfinite

/-- and any other as null. -/
theorem compact_numberJson_of_not_isFinite (h : number.isFinite = false) :
    (numberJson number).compact = null.compact := by
  obtain ⟨hint, hwrite⟩ := forms_of_not_isFinite h
  have hjson : numberJson number = ofFloat number := by simp [numberJson, hint]
  rw [hjson, ofFloat, Form.write, hwrite, compact, String.toList_ofList]
  rfl

end Json

end Cartouche
