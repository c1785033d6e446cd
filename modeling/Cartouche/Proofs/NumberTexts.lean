import Cartouche.Proofs.Trimming
import Cartouche.Proofs.Zeros

/-!
Numbers and their texts under the coercions. A text written from a number has no blanks; if its
standard form reads back, it counts as the number does, as a number and as a truth value.
-/
namespace Cartouche
open Decimal Text

/-- The standard text of a number, in which zero keeps its sign, reads as that number. -/
def ReadsBack (n : Float) : Prop :=
  read? (signedForm.write n).toList = some n

instance (n : Float) : Decidable (ReadsBack n) :=
  inferInstanceAs (Decidable (_ = _))

/-! Characters of a number's text. -/

theorem isDigit_of_mem_ofNat {n : Nat} {e : Int} {c : Char} (h : c ∈ (Digits.ofNat n e).digits) :
    c.isDigit := by
  have hsuffix : (digitsOf n).reverse.dropWhile (· == '0') <:+ (digitsOf n).reverse :=
    List.dropWhile_suffix _
  have hmem : c ∈ (digitsOf n).reverse := hsuffix.subset (List.mem_reverse.mp h)
  exact isDigit_of_mem_digitsOf (List.mem_reverse.mp hmem)

theorem isDigit_of_mem_shortest {b : Binary} {tieUp : Bool} {c : Char}
    (h : c ∈ (b.shortest tieUp).digits) : c.isDigit := by
  unfold Binary.shortest at h
  generalize (digitsOf b.grains).length - 1 = dropped at h
  induction dropped with
  | zero => exact isDigit_of_mem_ofNat h
  | succ dropped ih =>
    rw [Binary.search] at h
    cases hn : b.neighbour? tieUp (dropped + 1) with
    | some n =>
      rw [hn] at h
      exact isDigit_of_mem_ofNat h
    | none =>
      rw [hn] at h
      exact ih h

theorem mem_positional {d : Digits} {c : Char} (h : c ∈ d.positional false) :
    c ∈ d.digits ∨ c = '0' ∨ c = '.' := by
  unfold Digits.positional at h
  split at h
  · simp at h
    grind
  · split at h
    · simp at h
      grind
    · simp at h
      rcases h with h | h | h
      · exact Or.inl (List.mem_of_mem_take h)
      · exact Or.inr (Or.inr h)
      · exact Or.inl (List.mem_of_mem_drop h)

theorem mem_magnitude {b : Binary} {c : Char} (h : c ∈ labelForm.magnitude b) :
    c.isDigit ∨ c = '.' := by
  have hmagnitude : labelForm.magnitude b =
      if b.significand = 0 then ['0'] else (b.shortest true).positional false := rfl
  rw [hmagnitude] at h
  split at h
  · cases List.mem_singleton.mp h
    exact .inl rfl
  · rcases mem_positional h with h | rfl | rfl
    · exact .inl (isDigit_of_mem_shortest h)
    · exact .inl rfl
    · exact .inr rfl

theorem isBlank_of_mem_magnitude {b : Binary} {c : Char} (h : c ∈ labelForm.magnitude b) :
    isBlank c = false := by
  rcases mem_magnitude h with h | rfl
  · exact isBlank_of_isDigit h
  · decide

theorem isBlank_of_mem_numberText {n : Float} {c : Char} (h : c ∈ (numberText n).toList) :
    isBlank c = false := by
  rw [numberText, Form.write, String.toList_ofList] at h
  cases hd : decode n with
  | nan =>
    have hword : "NaN".toList.all (!isBlank ·) := by decide
    rw [hd] at h
    simpa using List.all_eq_true.mp hword c h
  | infinite negative =>
    have hword : ∀ negative, (infiniteWord negative).toList.all (!isBlank ·) := by decide
    rw [hd] at h
    simpa using List.all_eq_true.mp (hword negative) c h
  | finite negative b =>
    rw [hd, Form.decoded] at h
    split at h
    · rcases List.mem_cons.mp h with rfl | h
      · decide
      · exact isBlank_of_mem_magnitude h
    · exact isBlank_of_mem_magnitude h

theorem trim_numberText (n : Float) : trim (numberText n).toList = (numberText n).toList := by
  have htrimmed : IsTrimmed (numberText n).toList :=
    ⟨fun _ hc => isBlank_of_mem_numberText (List.mem_of_mem_head? hc),
      fun _ hc => isBlank_of_mem_numberText (List.mem_of_mem_getLast? hc)⟩
  exact htrimmed.trim_eq

/-! Zero is written without its sign, every other number in the standard form. -/

variable {n : Float}

theorem numberText_of_isZero (h : IsZero n) : numberText n = "0" := by
  obtain ⟨negative, b, hd, hb⟩ := isZero_iff_decode.mp h
  rw [numberText, Form.write, hd]
  simp [Form.decoded, Form.magnitude, hb, labelForm]

theorem numberText_of_not_isZero (h : ¬ IsZero n) : numberText n = signedForm.write n := by
  rw [numberText, Form.write, Form.write]
  cases hd : decode n with
  | finite negative b =>
    have hb : b.significand ≠ 0 := fun hb => h (isZero_iff_decode.mpr ⟨negative, b, hd, hb⟩)
    have hmagnitude : labelForm.magnitude b = signedForm.magnitude b := rfl
    simp [Form.decoded, hb, hmagnitude]
  | _ => rfl

theorem finiteNumber?_numberText (hfinite : n.isFinite) (h : ReadsBack n) :
    ∃ m, finiteNumber? (numberText n) = some m ∧ SameUpToSign n m := by
  by_cases hz : IsZero n
  · have hzero : finiteNumber? "0" = some 0 := rfl
    have hsame : SameUpToSign n 0 := Or.inr ⟨hz, isZero_zero⟩
    refine ⟨0, ?_, hsame⟩
    rw [numberText_of_isZero hz, hzero]
  · have hread : read? (numberText n).toList = some n := numberText_of_not_isZero hz ▸ h
    refine ⟨n, ?_, Or.inl rfl⟩
    rw [finiteNumber?, trim_numberText, hread]
    exact if_pos hfinite

/-- As numbers a number and its text differ in the sign of zero at most. -/
theorem toNumber_numberText (hfinite : n.isFinite) (h : ReadsBack n) :
    SameUpToSign (Value.number n).toNumber (Value.text (numberText n)).toNumber := by
  obtain ⟨m, hm, hsame⟩ := finiteNumber?_numberText hfinite h
  have hnan := isNaN_eq_false_of_isFinite hfinite
  have hnumber : (Value.number n).toNumber = n := if_neg (ne_true_of_eq_false hnan)
  have htext : ∀ s, (Value.text s).toNumber = (finiteNumber? s).getD 0 := fun _ => rfl
  rw [hnumber, htext, hm, Option.getD_some]
  exact hsame

theorem toBool_number (hfinite : n.isFinite) : (Value.number n).toBool = !decide (IsZero n) := by
  have hzero : (n == 0) = decide (IsZero n) := by
    rw [Bool.eq_iff_iff, beq_zero_iff, decide_eq_true_iff]
  rw [Value.toBool, hzero, isNaN_eq_false_of_isFinite hfinite, Bool.not_false, Bool.and_true]

/-- No text that reads as a number other than zero counts as false. -/
theorem toBool_numberText (h : ReadsBack n) :
    (Value.text (numberText n)).toBool = !decide (IsZero n) := by
  by_cases hz : IsZero n
  · rw [numberText_of_isZero hz, decide_eq_true hz]
    decide
  · have hread : read? (numberText n).toList = some n := numberText_of_not_isZero hz ▸ h
    have hne : ∀ s : String, reading? s.toList = none → numberText n ≠ s := by
      intro s hs heq
      rw [heq, read?, hs] at hread
      cases hread
    have hzero : numberText n ≠ "0" := by
      intro heq
      rw [heq] at hread
      have hn : n = 0 := (Option.some.inj hread).symm
      exact hz (hn ▸ isZero_zero)
    have hempty := hne "" (by decide)
    have hfalse := hne "false" (by decide)
    have hno := hne "no" (by decide)
    have htrim : trimmed (numberText n) = numberText n := by
      rw [trimmed, trim_numberText, String.ofList_toList]
    rw [decide_eq_false hz]
    simp [Value.toBool, htrim, hempty, hfalse, hno, hzero]

end Cartouche
