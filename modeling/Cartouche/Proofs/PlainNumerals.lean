import Cartouche.Proofs.Numerals

/-!
Numerals without a power of ten: they are read off their texts, and where no zero ends the fraction,
also off their values.
-/
namespace Cartouche
open Decimal
open Json (Numeral)

variable {n m : Numeral} {text : List Char} {c : Char}

/-! Zeros at the end. -/

theorem exists_dropTrailing (c : Char) (text : List Char) :
    ∃ count, text = dropTrailing c text ++ List.replicate count c := by
  have hsplit := List.rdropWhile_append_rtakeWhile (p := (· == c)) (l := text)
  have hdropped : text.rtakeWhile (· == c) = List.replicate (text.rtakeWhile (· == c)).length c :=
    List.eq_replicate_iff.mpr ⟨rfl, fun d hd => by simpa using List.mem_rtakeWhile_imp hd⟩
  rw [hdropped] at hsplit
  exact ⟨_, hsplit.symm⟩

theorem getLast?_dropTrailing (c : Char) (text : List Char) :
    (dropTrailing c text).getLast? ≠ some c := by
  intro h
  rw [dropTrailing, List.getLast?_reverse] at h
  have hnot := Text.of_mem_head?_dropWhile h
  simp at hnot

theorem dropTrailing_eq_self (h : text.getLast? ≠ some c) : dropTrailing c text = text := by
  refine List.rdropWhile_eq_self_iff.mpr fun hne hlast => h ?_
  rw [List.getLast?_eq_some_getLast hne, beq_iff_eq.mp hlast]

namespace Json.Numeral

theorem value_of_plain (h : n.exponent = none) :
    n.value = natOfDigits (n.whole ++ n.fraction) / 10 ^ n.fraction.length := by
  rw [value, power, h]
  dsimp only
  rw [zero_sub, zpow_neg, zpow_natCast, div_eq_mul_inv]

/-- Digits are a numeral with a point in front of the last ones, if no zero stands in front of
another digit there. -/
theorem exists_numeral_cut {digits : List Char} {places : Nat} (hdigits : ∀ c ∈ digits, c.isDigit)
    (hplaces : 0 < places) (hlength : places < digits.length)
    (hzero : digits.head? = some '0' → digits.length = places + 1) :
    ∃ n : Numeral, n.exponent = none ∧ n.fraction.length = places ∧
      n.text = digits.take (digits.length - places) ++
        '.' :: digits.drop (digits.length - places) ∧
      n.value = natOfDigits digits / 10 ^ places := by
  have hfraction : (digits.drop (digits.length - places)).length = places := by
    rw [List.length_drop]
    omega
  have hbehind : digits.drop (digits.length - places) ≠ [] := by
    rw [← List.length_pos_iff, hfraction]
    exact hplaces
  have hfront : digits.take (digits.length - places) ≠ [] := by
    rw [← List.length_pos_iff, List.length_take]
    omega
  have halone : (digits.take (digits.length - places)).head? = some '0' →
      (digits.take (digits.length - places)).length = 1 := by
    intro hhead
    rw [List.head?_take, if_neg (by omega)] at hhead
    have hshort := hzero hhead
    rw [List.length_take]
    omega
  refine ⟨⟨digits.take (digits.length - places), digits.drop (digits.length - places), none,
    fun c hc => hdigits c (List.mem_of_mem_take hc), hfront, halone,
    fun c hc => hdigits c (List.mem_of_mem_drop hc), by simp⟩, rfl, hfraction, ?_, ?_⟩
  · simp [text, fractionText, exponentText, hbehind]
  · rw [value_of_plain rfl]
    simp only [List.take_append_drop, hfraction]

/-! A numeral is read off its text. -/

theorem text_eq_of_plain (h : n.exponent = none) : n.text = n.whole ++ n.fractionText := by
  rw [Numeral.text, Numeral.exponentText, h]
  exact List.append_nil _

theorem whole_of_text (h : n.exponent = none) : n.text.takeWhile Char.isDigit = n.whole := by
  rw [text_eq_of_plain h, List.takeWhile_append_of_pos n.wholeDigits, Numeral.fractionText]
  split
  · exact List.append_nil _
  · rw [List.takeWhile_cons_of_neg (by decide), List.append_nil]

theorem fraction_of_text (h : n.exponent = none) :
    (n.text.dropWhile Char.isDigit).tail = n.fraction := by
  rw [text_eq_of_plain h, List.dropWhile_append_of_pos n.wholeDigits, Numeral.fractionText]
  split
  · next hempty => exact (List.isEmpty_iff.mp hempty).symm
  · rw [List.dropWhile_cons_of_neg (by decide), List.tail_cons]

theorem eq_of_parts (hwhole : n.whole = m.whole) (hfraction : n.fraction = m.fraction)
    (hexponent : n.exponent = m.exponent) : n = m := by
  cases n
  cases m
  cases hwhole
  cases hfraction
  cases hexponent
  rfl

theorem eq_of_text_eq (hn : n.exponent = none) (hm : m.exponent = none) (h : n.text = m.text) :
    n = m := by
  refine eq_of_parts ?_ ?_ (hn.trans hm.symm)
  · rw [← whole_of_text hn, h, whole_of_text hm]
  · rw [← fraction_of_text hn, h, fraction_of_text hm]

theorem head?_text_ne_minus (n : Numeral) : n.text.head? ≠ some '-' := by
  intro h
  rw [Numeral.text, List.append_assoc, List.head?_append_of_ne_nil _ n.wholeNonempty] at h
  exact absurd (n.wholeDigits _ (List.mem_of_head? h)) (by decide)

theorem point_mem_text_iff (hplain : n.exponent = none) : '.' ∈ n.text ↔ n.fraction ≠ [] := by
  have hwhole : '.' ∉ n.whole := fun h => absurd (n.wholeDigits _ h) (by decide)
  rw [text_eq_of_plain hplain, List.mem_append, or_iff_right hwhole, fractionText]
  cases n.fraction <;> simp

/-- The last character is a digit, in front of the point or behind it. -/
theorem getLast?_text_ne_point (hplain : n.exponent = none) (front : List Char) :
    (front ++ n.text).getLast? ≠ some '.' := by
  intro h
  rw [text_eq_of_plain hplain, fractionText] at h
  split at h
  · rw [List.append_nil, List.getLast?_append_of_ne_nil _ n.wholeNonempty] at h
    exact absurd (n.wholeDigits _ (List.mem_of_getLast? h)) (by decide)
  · next hfraction =>
    rw [List.isEmpty_iff] at hfraction
    rw [← List.append_assoc, List.getLast?_append_of_ne_nil _ (List.cons_ne_nil _ _),
      List.getLast?_cons_of_ne_nil hfraction] at h
    exact absurd (n.fractionDigits _ (List.mem_of_getLast? h)) (by decide)

/-! A shorter fraction. -/

/-- A numeral without the zeros at the end of its fraction. -/
def shortened (n : Numeral) : Numeral :=
  { n with
    fraction := dropTrailing '0' n.fraction
    fractionDigits := fun c hc =>
      n.fractionDigits c ((List.rdropWhile_prefix _ _).subset hc) }

theorem value_shortened (hplain : n.exponent = none) : n.shortened.value = n.value := by
  obtain ⟨count, hcount⟩ := exists_dropTrailing '0' n.fraction
  have hdigits : natOfDigits (n.whole ++ n.fraction) =
      natOfDigits (n.whole ++ dropTrailing '0' n.fraction) * 10 ^ count := by
    rw [← natOfDigits_append_zeros, List.append_assoc, ← hcount]
  have hlength : n.fraction.length = (dropTrailing '0' n.fraction).length + count := by
    rw [← List.length_replicate (n := count) (a := '0'), ← List.length_append, ← hcount]
  have hpower : n.power = 0 := by rw [Numeral.power, hplain]
  have hpower' : n.shortened.power = 0 := hpower
  rw [Numeral.value, Numeral.value, hpower, hpower', hdigits, hlength, Nat.cast_mul, Nat.cast_pow,
    Nat.cast_ofNat, mul_assoc, Nat.cast_add, ← sub_sub, zpow_ten_mul]
  rfl

/-! A numeral is read off its value. -/

/-- In front of the point there are no zeros that count for nothing. -/
theorem whole_eq_digitsOf (n : Numeral) : n.whole = digitsOf (natOfDigits n.whole) := by
  obtain ⟨zeros, hzeros⟩ := exists_zeros_of_digits n.wholeNonempty n.wholeDigits
  cases zeros with
  | zero => simpa using hzeros
  | succ zeros =>
    have hone := n.zeroAlone (by rw [hzeros]; rfl)
    have hpos : 0 < (digitsOf (natOfDigits n.whole)).length :=
      List.length_pos_iff.mpr Nat.toDigits_ne_nil
    rw [hzeros, List.length_append, List.length_replicate] at hone
    omega

theorem value_nonneg (n : Numeral) : 0 ≤ n.value :=
  mul_nonneg (Nat.cast_nonneg _) (zpow_nonneg (by norm_num) _)

/-- A fraction that does not end in a zero makes no multiple of ten. -/
theorem not_ten_dvd (hne : n.fraction ≠ []) (hend : n.fraction.getLast? ≠ some '0') :
    ¬ 10 ∣ natOfDigits (n.whole ++ n.fraction) := by
  intro hdvd
  have hlast := List.dropLast_append_getLast hne
  have hdigit := n.fractionDigits _ (List.getLast_mem hne)
  obtain ⟨hlt, hdigits⟩ := digitsOf_of_isDigit hdigit
  rw [← hlast, ← List.append_assoc, natOfDigits_append] at hdvd
  have hzero : (n.fraction.getLast hne).toNat - '0'.toNat = 0 := by omega
  rw [hzero] at hdigits
  rw [List.getLast?_eq_some_getLast hne] at hend
  exact hend (congrArg some (List.singleton_inj.mp hdigits).symm)

theorem length_fraction_le (hn : n.exponent = none) (hm : m.exponent = none)
    (hend : n.fraction.getLast? ≠ some '0') (h : n.value = m.value) :
    n.fraction.length ≤ m.fraction.length := by
  by_contra! hlt
  have hne : n.fraction ≠ [] := by
    rintro hnil
    rw [hnil] at hlt
    cases hlt
  rw [value_of_plain hn, value_of_plain hm, div_eq_div_iff (by positivity) (by positivity)] at h
  have hnat : natOfDigits (n.whole ++ n.fraction) * 10 ^ m.fraction.length =
      natOfDigits (m.whole ++ m.fraction) * 10 ^ n.fraction.length := by exact_mod_cast h
  have hsplit : 10 ^ n.fraction.length =
      10 * 10 ^ (n.fraction.length - m.fraction.length - 1) * 10 ^ m.fraction.length := by
    rw [← pow_succ', ← pow_add]
    congr 1
    omega
  rw [hsplit, ← mul_assoc] at hnat
  have hdigits := Nat.eq_of_mul_eq_mul_right (Nat.pow_pos (by omega)) hnat
  exact not_ten_dvd hne hend ⟨_, hdigits.trans (mul_left_comm _ _ _)⟩

/-- The digits in front of the point and those behind it are a quotient and a remainder. -/
theorem natOfDigits_parts (n : Numeral) :
    natOfDigits (n.whole ++ n.fraction) / 10 ^ n.fraction.length = natOfDigits n.whole ∧
    natOfDigits (n.whole ++ n.fraction) % 10 ^ n.fraction.length = natOfDigits n.fraction := by
  rw [natOfDigits_append_digits]
  refine (Nat.div_mod_unique (Nat.pow_pos (by omega))).mpr ⟨?_, natOfDigits_lt n.fractionDigits⟩
  ring

/-- Numerals of one value that end in no zero have the same digits. -/
theorem eq_of_value_eq (hn : n.exponent = none) (hm : m.exponent = none)
    (hend : n.fraction.getLast? ≠ some '0') (hend' : m.fraction.getLast? ≠ some '0')
    (h : n.value = m.value) : n = m := by
  have hlength : n.fraction.length = m.fraction.length :=
    le_antisymm (length_fraction_le hn hm hend h) (length_fraction_le hm hn hend' h.symm)
  rw [value_of_plain hn, value_of_plain hm, hlength, div_left_inj' (by positivity),
    Nat.cast_inj] at h
  obtain ⟨hwhole, hfraction⟩ := natOfDigits_parts n
  obtain ⟨hwhole', hfraction'⟩ := natOfDigits_parts m
  rw [h, hlength] at hwhole hfraction
  refine eq_of_parts ?_ ?_ (hn.trans hm.symm)
  · rw [n.whole_eq_digitsOf, m.whole_eq_digitsOf, ← hwhole, ← hwhole']
  · exact eq_of_natOfDigits_eq n.fractionDigits m.fractionDigits hlength
      (hfraction.symm.trans hfraction')

/-- Without zeros at the end of its fraction, zero has one text. -/
theorem text_eq_zero_iff (hplain : n.exponent = none) (hend : n.fraction.getLast? ≠ some '0') :
    n.text = ['0'] ↔ n.value = 0 := by
  obtain ⟨zero, htext, hwhole, hfraction, hplain'⟩ := exists_numeral_digitsOf 0
  have hvalue : zero.value = 0 := by
    rw [value_of_plain hplain', hwhole, hfraction, List.append_nil, natOfDigits_digitsOf,
      Nat.cast_zero, zero_div]
  constructor
  · intro h
    rw [eq_of_text_eq hplain hplain' (h.trans htext.symm), hvalue]
  · intro h
    rw [eq_of_value_eq hplain hplain' hend (by simp [hfraction]) (h.trans hvalue.symm), htext]
    rfl

end Json.Numeral

end Cartouche
