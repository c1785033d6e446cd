import Cartouche.Proofs.PlainNumerals
import Cartouche.Proofs.ShortestDigits
import Cartouche.Style.Value

/-!
Texts with a fixed number of places, and what is left of them without the zeros at their end. The
decimal stays the same, and so do the digits in front of the point; no decimal has two such texts.
-/
namespace Cartouche
open Decimal
open Json (Numeral)

/-- The text is that of the numeral, which has no power of ten, behind its sign. -/
structure IsSignedText (text : List Char) (negative : Bool) (n : Numeral) : Prop where
  plain : n.exponent = none
  text_eq : text = if negative then '-' :: n.text else n.text

/-- No zero at the end of a fraction, and no sign of zero. -/
structure IsReduced (negative : Bool) (n : Numeral) : Prop where
  fractionEnd : n.fraction.getLast? ≠ some '0'
  signOfNonzero : negative = true → n.value ≠ 0

variable {text : List Char} {n m : Numeral} {negative sign : Bool} {c d : Char}

theorem signed_plus (q : ℚ) : signed (signOf false) q = q :=
  rfl

theorem signed_minus (q : ℚ) : signed (signOf true) q = -q :=
  rfl

/-! Rounding to places. -/

theorem roundEven_eq_tieEven (num : Nat) {den : Nat} (hden : 0 < den) :
    (roundEven num den : ℤ) = tieEven (num / den) := by
  have hpos : (0 : ℚ) < den := by exact_mod_cast hden
  have hfloor : ⌊(num / den : ℚ)⌋ = (num / den : ℕ) := Rat.floor_natCast_div_natCast num den
  have hfract : Int.fract (num / den : ℚ) = (num % den : ℕ) / den :=
    Int.fract_div_natCast_eq_div_natCast_mod
  have hlt : ((num % den : ℕ) / den : ℚ) < 1 / 2 ↔ 2 * (num % den) < den := by
    rw [div_lt_div_iff₀ hpos two_pos, one_mul, mul_comm]
    exact_mod_cast Iff.rfl
  have hgt : (1 / 2 : ℚ) < (num % den : ℕ) / den ↔ den < 2 * (num % den) := by
    rw [div_lt_div_iff₀ two_pos hpos, one_mul, mul_comm]
    exact_mod_cast Iff.rfl
  unfold roundEven tieEven
  rw [hfloor, hfract, if_congr hlt rfl (if_congr hgt rfl rfl)]
  dsimp only
  split
  · next h => rw [if_pos (Nat.compare_eq_lt.mp h)]
  · next h =>
    have habove := Nat.compare_eq_gt.mp h
    rw [if_neg habove.not_gt, if_pos habove, Nat.cast_add, Nat.cast_one]
  · next h =>
    have htie := Nat.compare_eq_eq.mp h
    rw [if_neg htie.not_lt, if_neg htie.not_gt]
    split <;> omega

/-- The digits kept are those of the exact magnitude, rounded once. -/
theorem atPlaces_eq_tieEven (b : Binary) (places : Nat) :
    (b.atPlaces places : ℤ) = tieEven (b.significand * 2 ^ b.exponent * 10 ^ places) := by
  have hexact : (b.significand * 2 ^ b.exponent * 10 ^ places : ℚ) =
      b.grains * 10 ^ (b.scale + places) := by
    rw [← unit_mul_scale, Binary.grains, zpow_add₀ (by norm_num), zpow_natCast]
    push_cast
    ring
  rw [hexact, Binary.atPlaces]
  split
  · next hshift =>
    obtain ⟨k, hk⟩ := Int.eq_ofNat_of_zero_le hshift
    rw [hk, Int.toNat_natCast, zpow_natCast, Nat.pow_eq]
    have hcast : (b.grains * 10 ^ k : ℚ) = ((b.grains * 10 ^ k : ℕ) : ℤ) := by push_cast; rfl
    rw [hcast, tieEven_intCast]
  · next hshift =>
    obtain ⟨k, hk⟩ : ∃ k : ℕ, b.scale + places = -k := ⟨(-(b.scale + places)).toNat, by omega⟩
    rw [hk, neg_neg, Int.toNat_natCast, Nat.pow_eq, roundEven_eq_tieEven _ (Nat.pow_pos (by omega)),
      zpow_neg, zpow_natCast, div_eq_mul_inv]
    push_cast
    rfl

/-- Where a zero is the first digit, no other digit is in front of the point. -/
theorem length_padded_of_head? {k places zeros : Nat} (hpos : 0 < places)
    (hzeros : places + 1 - (digitsOf k).length = zeros)
    (h : (List.replicate zeros '0' ++ digitsOf k).head? = some '0') :
    (List.replicate zeros '0' ++ digitsOf k).length = places + 1 := by
  rw [List.length_append, List.length_replicate]
  by_cases hshort : (digitsOf k).length ≤ places
  · omega
  · -- With digits enough, no zeros are put in front of them, and a number begins with none.
    have hnone : zeros = 0 := by omega
    rw [hnone] at h
    have hk : 0 < k := by
      rcases Nat.eq_zero_or_pos k with rfl | hk
      · exact absurd hpos hshort
      · exact hk
    exact absurd h (Json.isLeading_digitsOf hk).headNonzero

/-- With zeros in front where there are too few digits, the point always has one in front of it. -/
theorem exists_numeral_setPoint (k places : Nat) : ∃ n : Numeral, n.exponent = none ∧
    n.text = setPoint k places ∧ n.fraction.length = places ∧ n.value = k / 10 ^ places := by
  unfold setPoint
  split
  · next hplaces =>
    subst hplaces
    obtain ⟨n, htext, hwhole, hfraction, hplain⟩ := Json.exists_numeral_digitsOf k
    refine ⟨n, hplain, htext, by rw [hfraction, List.length_nil], ?_⟩
    rw [n.value_of_plain hplain, hwhole, hfraction, List.append_nil, natOfDigits_digitsOf,
      List.length_nil]
  · next hplaces =>
    have hpos : 0 < places := Nat.pos_of_ne_zero hplaces
    dsimp only
    generalize hzeros : places + 1 - (digitsOf k).length = zeros
    have hlength : places < (List.replicate zeros '0' ++ digitsOf k).length := by
      rw [List.length_append, List.length_replicate]
      omega
    obtain ⟨n, hplain, hfraction, htext, hvalue⟩ := Json.Numeral.exists_numeral_cut
      (fun _ => isDigit_behind_zeros) hpos hlength (length_padded_of_head? hpos hzeros)
    rw [natOfDigits_zeros] at hvalue
    exact ⟨n, hplain, htext, hfraction, hvalue⟩

/-- The standard text is that of the exact value, rounded to the places that it has. -/
theorem exists_isSignedText_fixed (negative : Bool) (b : Binary) (places : Nat) : ∃ n : Numeral,
    IsSignedText ((Decoded.finite negative b).fixed places) negative n ∧
    n.fraction.length = places ∧
    signed (signOf negative) n.value =
      tieEven (signed (signOf negative) (b.significand * 2 ^ b.exponent) * 10 ^ places) /
        10 ^ places := by
  obtain ⟨n, hplain, htext, hlength, hvalue⟩ :=
    exists_numeral_setPoint (b.atPlaces places) places
  refine ⟨n, ⟨hplain, by rw [htext]; rfl⟩, hlength, ?_⟩
  have hrounded : (b.atPlaces places : ℚ) =
      tieEven (b.significand * 2 ^ b.exponent * 10 ^ places) := by
    exact_mod_cast congrArg (Int.cast : ℤ → ℚ) (atPlaces_eq_tieEven b places)
  rw [hvalue, hrounded]
  cases negative with
  | false => rfl
  | true =>
    rw [signed_minus, signed_minus, neg_mul, tieEven_neg, Int.cast_neg, neg_div]

/-- A text is that of one numeral, with one sign. -/
theorem IsSignedText.unique (h : IsSignedText text negative n) (h' : IsSignedText text sign m) :
    negative = sign ∧ n = m := by
  have heq := h.text_eq.symm.trans h'.text_eq
  cases negative <;> cases sign
  · exact ⟨rfl, Json.Numeral.eq_of_text_eq h.plain h'.plain heq⟩
  · exact absurd (congrArg List.head? heq) (n.head?_text_ne_minus)
  · exact absurd (congrArg List.head? heq).symm (m.head?_text_ne_minus)
  · exact ⟨rfl, Json.Numeral.eq_of_text_eq h.plain h'.plain (List.cons.inj heq).2⟩

/-! Zeros at the end. -/

/-- Nothing goes in front of another character. -/
theorem dropTrailing_append_cons (hd : d ≠ c) (front digits : List Char) :
    dropTrailing c (front ++ d :: digits) = front ++ d :: dropTrailing c digits := by
  have hstop : ((d :: front.reverse).dropWhile (· == c)) = d :: front.reverse :=
    List.dropWhile_cons_of_neg (by simpa using hd)
  simp only [dropTrailing, List.reverse_append, List.reverse_cons, List.append_assoc,
    List.singleton_append, List.dropWhile_append, hstop]
  split
  · next hall => simp [List.isEmpty_iff.mp hall]
  · simp

namespace Json.Numeral

/-- The zeros go, and the point with them where no other digit is behind it. -/
theorem dropTrailing_text (hplain : n.exponent = none) (hne : n.fraction ≠ [])
    (front : List Char) :
    dropTrailing '.' (dropTrailing '0' (front ++ n.text)) = front ++ n.shortened.text := by
  have hshort : n.shortened.exponent = none := hplain
  have hkept : dropTrailing '.' (front ++ n.shortened.text) = front ++ n.shortened.text :=
    dropTrailing_eq_self (getLast?_text_ne_point hshort front)
  have hzeros : dropTrailing '0' (front ++ n.text) =
      front ++ n.whole ++ '.' :: dropTrailing '0' n.fraction := by
    rw [text_eq_of_plain hplain, fractionText, if_neg (by simpa using hne), ← List.append_assoc,
      dropTrailing_append_cons (by decide)]
  have htext : n.shortened.text = n.whole ++ if (dropTrailing '0' n.fraction).isEmpty then []
      else '.' :: dropTrailing '0' n.fraction := text_eq_of_plain hshort
  rw [hzeros, ← hkept, htext, ← List.append_assoc]
  cases dropTrailing '0' n.fraction with
  | nil => simp [dropTrailing]
  | cons => rfl

end Json.Numeral

/-- A text without a point has no fraction that could be shortened. -/
theorem IsSignedText.short_eq (h : IsSignedText text negative n) :
    (if '.' ∈ text then dropTrailing '.' (dropTrailing '0' text) else text) =
      (if negative then ['-'] else []) ++ n.shortened.text := by
  have htext : text = (if negative then ['-'] else []) ++ n.text := by
    rw [h.text_eq]
    cases negative <;> rfl
  have hpoint : '.' ∈ text ↔ n.fraction ≠ [] := by
    rw [htext, List.mem_append, ← Json.Numeral.point_mem_text_iff h.plain]
    cases negative <;> simp
  split
  · next hmem =>
    rw [htext]
    exact Json.Numeral.dropTrailing_text h.plain (hpoint.mp hmem) _
  · next hmem =>
    have hnil : n.fraction = [] := not_not.mp fun hne => hmem (hpoint.mpr hne)
    have hsame : n.shortened = n :=
      Json.Numeral.eq_of_parts rfl (by simp [Json.Numeral.shortened, hnil, dropTrailing]) rfl
    rw [hsame, htext]

theorem canonicalFixed_eq (h : IsSignedText text negative n) : canonicalFixed text =
    if negative ∧ n.value ≠ 0 then '-' :: n.shortened.text else n.shortened.text := by
  have hzero : n.shortened.text = ['0'] ↔ n.value = 0 := by
    rw [← Json.Numeral.value_shortened h.plain]
    exact Json.Numeral.text_eq_zero_iff h.plain (getLast?_dropTrailing '0' n.fraction)
  unfold canonicalFixed
  dsimp only
  rw [h.short_eq]
  cases negative with
  | false =>
    have hminus : n.shortened.text ≠ ['-', '0'] := by
      intro heq
      exact Json.Numeral.head?_text_ne_minus n.shortened (by rw [heq]; rfl)
    simp [hminus]
  | true =>
    by_cases hvalue : n.value = 0
    · simp [hvalue, hzero.mpr hvalue]
    · have htext := hzero.not.mpr hvalue
      simp [hvalue, htext]

/-- The text with fewer zeros is one of the same decimal, without a zero at its end and without the
sign of zero. -/
theorem exists_isSignedText_canonicalFixed (h : IsSignedText text negative n) : ∃ sign,
    IsSignedText (canonicalFixed text) sign n.shortened ∧ IsReduced sign n.shortened ∧
    signed (signOf sign) n.shortened.value = signed (signOf negative) n.value := by
  have hvalue := Json.Numeral.value_shortened h.plain
  have hend := getLast?_dropTrailing '0' n.fraction
  by_cases hsign : negative = true ∧ n.value ≠ 0
  · obtain ⟨rfl, hnonzero⟩ := hsign
    refine ⟨true, ⟨h.plain, ?_⟩, ⟨hend, fun _ => by rwa [hvalue]⟩, by rw [hvalue]⟩
    rw [canonicalFixed_eq h, if_pos ⟨rfl, hnonzero⟩]
    rfl
  · refine ⟨false, ⟨h.plain, ?_⟩, ⟨hend, nofun⟩, ?_⟩
    · rw [canonicalFixed_eq h, if_neg hsign]
      rfl
    · rw [hvalue]
      cases negative with
      | false => rfl
      | true =>
        have hzero : n.value = 0 := not_not.mp fun hne => hsign ⟨rfl, hne⟩
        rw [hzero, signed_zero, signed_zero]

/-! One text for each decimal. -/

theorem IsReduced.unique (h : IsReduced negative n) (h' : IsReduced sign m)
    (hn : n.exponent = none) (hm : m.exponent = none)
    (hvalue : signed (signOf negative) n.value = signed (signOf sign) m.value) :
    negative = sign ∧ n = m := by
  have hpos := n.value_nonneg
  have hpos' := m.value_nonneg
  cases negative <;> cases sign <;> simp only [signed_plus, signed_minus] at hvalue
  · exact ⟨rfl, Json.Numeral.eq_of_value_eq hn hm h.fractionEnd h'.fractionEnd hvalue⟩
  · exact absurd (by linarith) (h'.signOfNonzero rfl)
  · exact absurd (by linarith) (h.signOfNonzero rfl)
  · exact ⟨rfl, Json.Numeral.eq_of_value_eq hn hm h.fractionEnd h'.fractionEnd (neg_inj.mp hvalue)⟩

/-! Texts of numbers. -/

theorem IsSignedText.getLast?_ne_point (h : IsSignedText text negative n) :
    text.getLast? ≠ some '.' := by
  rw [h.text_eq]
  cases negative with
  | false => exact Json.Numeral.getLast?_text_ne_point h.plain []
  | true => exact Json.Numeral.getLast?_text_ne_point h.plain ['-']

theorem IsReduced.ne_minus_zero (h : IsReduced negative n)
    (hsigned : IsSignedText text negative n) : text ≠ ['-', '0'] := by
  intro htext
  have heq := hsigned.text_eq.symm.trans htext
  cases negative with
  | false => exact n.head?_text_ne_minus (congrArg List.head? heq)
  | true =>
    have hzero := Json.Numeral.text_eq_zero_iff hsigned.plain h.fractionEnd
    exact h.signOfNonzero rfl (hzero.mp (List.cons.inj heq).2)

theorem exists_isSignedText_fixedText {x : Float} (h : x.isFinite) (places : Nat) :
    ∃ q negative sign standard, rational? x = some q ∧
      IsSignedText ((decode x).fixed places) negative standard ∧ standard.fraction.length = places ∧
      signed (signOf negative) standard.value = tieEven (q * 10 ^ places) / 10 ^ places ∧
      IsSignedText (fixedText places x).toList sign standard.shortened ∧
      IsReduced sign standard.shortened ∧
      signed (signOf sign) standard.shortened.value =
        signed (signOf negative) standard.value := by
  obtain ⟨q, hq⟩ := isFinite_iff_rational?.mp h
  obtain ⟨negative, b, hdecode, -⟩ := decode_of_rational? hq
  obtain rfl := Option.some.inj (hq.symm.trans (rational?_of_decode hdecode))
  obtain ⟨standard, hsigned, hlength, hvalue⟩ := exists_isSignedText_fixed negative b places
  obtain ⟨sign, hshort, hreduced, hsame⟩ := exists_isSignedText_canonicalFixed hsigned
  refine ⟨_, negative, sign, standard, hq, hdecode ▸ hsigned, hlength, hvalue, ?_, hreduced, hsame⟩
  rw [fixedText, String.toList_ofList, hdecode]
  exact hshort

/-- The standard text of a finite number with a fixed number of places is that of the exact value,
rounded to these places, and the text that is left of it is one of the same decimal. It has the same
digits in front of the point, no zero at the end of a fraction, no point behind its digits and no
sign of zero; no other number and no other count of places gives another text for that decimal. -/
theorem fixedText_canonical (x : Float) (h : x.isFinite) (places : Nat) :
    ∃ q negative sign standard short, rational? x = some q ∧
      IsSignedText ((decode x).fixed places) negative standard ∧ standard.fraction.length = places ∧
      signed (signOf negative) standard.value = tieEven (q * 10 ^ places) / 10 ^ places ∧
      IsSignedText (fixedText places x).toList sign short ∧
      signed (signOf sign) short.value = signed (signOf negative) standard.value ∧
      short.whole = standard.whole ∧ IsReduced sign short ∧
      (fixedText places x).toList.getLast? ≠ some '.' ∧ fixedText places x ≠ "-0" ∧
      ∀ (y : Float) (other : Nat) sign' short', y.isFinite →
        IsSignedText (fixedText other y).toList sign' short' →
        signed (signOf sign') short'.value = signed (signOf sign) short.value →
        fixedText other y = fixedText places x := by
  obtain ⟨q, negative, sign, standard, hq, hstandard, hlength, hvalue, hshort, hreduced, hsame⟩ :=
    exists_isSignedText_fixedText h places
  refine ⟨q, negative, sign, standard, standard.shortened, hq, hstandard, hlength, hvalue, hshort,
    hsame, rfl, hreduced, hshort.getLast?_ne_point, ?_, ?_⟩
  · intro hminus
    exact hreduced.ne_minus_zero hshort (by rw [hminus]; rfl)
  · intro y other sign' short' hy hother hdecimal
    obtain ⟨_, _, sign'', standard', _, _, _, _, hshort', hreduced', _⟩ :=
      exists_isSignedText_fixedText hy other
    obtain ⟨rfl, rfl⟩ := hother.unique hshort'
    obtain ⟨rfl, heq⟩ := hreduced'.unique hreduced hshort'.plain hshort.plain hdecimal
    rw [← String.toList_inj, hshort'.text_eq, hshort.text_eq, heq]

/-- Of numbers on either side of zero, too small for two places, nothing but a zero is left. -/
theorem small_numbers_fixed : (decode (-0.001 : Float)).fixed 2 = "-0.00".toList ∧
    fixedText 2 (-0.001) = "0" ∧ fixedText 2 (-0.001) ≠ "-0" ∧
    fixedText 4 0.00001 = fixedText 2 (-0.001) := by
  have hzero : fixedText 2 (-0.001) = "0" := by decide
  have hother : fixedText 4 0.00001 = "0" := by decide
  obtain ⟨_, _, sign, _, short, _, _, _, _, hshort, _, _, _, _, hminus, hunique⟩ :=
    fixedText_canonical (-0.001) (by decide) 2
  refine ⟨by decide, hzero, hminus, hunique 0.00001 4 sign short (by decide) ?_ rfl⟩
  rwa [hother, ← hzero]

/-- Zeros in front of the point stay. -/
example : fixedText 2 1200 = "1200" ∧ fixedText 0 1200 = "1200" ∧ fixedText 3 10.5 = "10.5" := by
  decide

end Cartouche
