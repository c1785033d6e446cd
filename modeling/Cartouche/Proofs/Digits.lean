import Cartouche.Decimal.Literal
import Cartouche.Decimal.Shortest
import Cartouche.Text.CharSet
import Mathlib.Algebra.Group.Nat.Defs
import Mathlib.Data.List.Induction
import Mathlib.Data.List.TakeDrop
import Mathlib.Data.List.TakeWhile
import Mathlib.Tactic.Ring

/-!
Texts of digits, and the numbers that they denote: any such text is that of its number behind zeros.
-/
namespace Cartouche
open Decimal Text

variable {text digits rest : List Char} {n zeros : Nat} {c : Char}

/-- The digits in front of a text end at what is none. -/
theorem span_isDigit_iff : text.span Char.isDigit = (digits, rest) ↔
    text = digits ++ rest ∧ (∀ c ∈ digits, c.isDigit) ∧ ∀ c ∈ rest.head?, c.isDigit = false := by
  rw [List.span_eq_takeWhile_dropWhile, Prod.mk.injEq]
  constructor
  · rintro ⟨rfl, rfl⟩
    refine ⟨List.takeWhile_append_dropWhile.symm, fun c => List.mem_takeWhile_imp, ?_⟩
    intro c hc
    have hstop := List.head?_dropWhile_not Char.isDigit text
    rw [Option.mem_def.mp hc] at hstop
    exact hstop
  · rintro ⟨rfl, hdigits, hrest⟩
    rw [List.takeWhile_append_of_pos hdigits, List.dropWhile_append_of_pos hdigits]
    cases rest with
    | nil => exact ⟨List.append_nil _, rfl⟩
    | cons c rest =>
      have hc : ¬ c.isDigit := by simp [hrest c rfl]
      rw [List.takeWhile_cons_of_neg hc, List.dropWhile_cons_of_neg hc]
      exact ⟨List.append_nil _, rfl⟩

theorem isDigit_of_mem_digitsOf (h : c ∈ digitsOf n) : c.isDigit :=
  Nat.isDigit_of_mem_toDigits (by omega) (by omega) h

theorem isDigit_of_mem_zeros (h : c ∈ List.replicate n '0') : c.isDigit := by
  rw [List.eq_of_mem_replicate h]
  decide

theorem isDigit_behind_zeros (h : c ∈ List.replicate zeros '0' ++ digitsOf n) : c.isDigit := by
  rcases List.mem_append.mp h with h | h
  · exact isDigit_of_mem_zeros h
  · exact isDigit_of_mem_digitsOf h

theorem natOfDigits_append (text : List Char) (c : Char) :
    natOfDigits (text ++ [c]) = 10 * natOfDigits text + (c.toNat - '0'.toNat) := by
  rw [natOfDigits, natOfDigits, List.foldl_append]
  rfl

theorem natOfDigits_digitsOf (n : Nat) : natOfDigits (digitsOf n) = n :=
  Nat.ofDigitChars_ten_toDigits

/-- Zeros behind the others are powers of ten, -/
theorem natOfDigits_append_zeros (text : List Char) (zeros : Nat) :
    natOfDigits (text ++ List.replicate zeros '0') = natOfDigits text * 10 ^ zeros := by
  induction zeros with
  | zero => simp
  | succ zeros ih =>
    rw [List.replicate_succ', ← List.append_assoc, natOfDigits_append, ih, Nat.sub_self,
      Nat.add_zero, pow_succ', Nat.mul_left_comm]

/-- and in front of them nothing. -/
theorem natOfDigits_zeros_append (zeros : Nat) (text : List Char) :
    natOfDigits (List.replicate zeros '0' ++ text) = natOfDigits text := by
  induction zeros with
  | zero => rfl
  | succ zeros ih => exact ih

theorem natOfDigits_zeros (zeros n : Nat) :
    natOfDigits (List.replicate zeros '0' ++ digitsOf n) = n := by
  have h := Nat.ofDigitChars_append (b := 10) (l := List.replicate zeros '0') (m := digitsOf n) 0
  rw [Nat.ofDigitChars_replicate_zero, Nat.mul_zero] at h
  exact h.trans (natOfDigits_digitsOf n)

theorem digitsOf_injective : Function.Injective digitsOf :=
  Function.LeftInverse.injective natOfDigits_digitsOf

theorem digitsOf_of_isDigit (h : c.isDigit) :
    c.toNat - '0'.toNat < 10 ∧ digitsOf (c.toNat - '0'.toNat) = [c] := by
  have ⟨low, high⟩ := range_of_isDigit h
  have hzero : '0'.toNat = 48 := rfl
  have hlt : c.toNat - '0'.toNat < 10 := by omega
  have hchar : Nat.digitChar (c.toNat - '0'.toNat) = c := by
    apply Char.toNat_inj.mp
    rw [Nat.toNat_digitChar_of_lt_ten hlt]
    omega
  exact ⟨hlt, by rw [digitsOf, Nat.toDigits_of_lt_base hlt, hchar]⟩

/-- A further digit stands behind those of the number so far. -/
theorem digitsOf_append (hn : 0 < n) (h : c.isDigit) :
    digitsOf (10 * n + (c.toNat - '0'.toNat)) = digitsOf n ++ [c] := by
  obtain ⟨hlt, hdigit⟩ := digitsOf_of_isDigit h
  rw [← hdigit]
  exact (Nat.toDigits_append_toDigits (by decide) hn hlt).symm

/-- Digits are those of the number that they denote, behind zeros. -/
theorem exists_zeros_of_digits (hne : text ≠ []) (h : ∀ c ∈ text, c.isDigit) :
    ∃ zeros, text = List.replicate zeros '0' ++ digitsOf (natOfDigits text) := by
  induction text using List.reverseRecOn with
  | nil => exact absurd rfl hne
  | append_singleton text c ih =>
    have hc : c.isDigit := h c (by simp)
    obtain ⟨_, hdigit⟩ := digitsOf_of_isDigit hc
    rw [natOfDigits_append]
    by_cases htext : text = []
    · subst htext
      exact ⟨0, by rw [natOfDigits, List.foldl_nil, Nat.mul_zero, Nat.zero_add, hdigit]; rfl⟩
    obtain ⟨zeros, hzeros⟩ := ih htext fun x hx => h x (by simp [hx])
    rcases Nat.eq_zero_or_pos (natOfDigits text) with hn | hn
    · -- So far there are zeros alone, the last of which is the text of zero.
      have hzero : digitsOf 0 = ['0'] := rfl
      rw [hn] at hzeros ⊢
      refine ⟨zeros + 1, ?_⟩
      rw [Nat.mul_zero, Nat.zero_add, hdigit, List.replicate_succ', ← hzero, ← hzeros]
    · refine ⟨zeros, ?_⟩
      rw [digitsOf_append hn hc, ← List.append_assoc, ← hzeros]

theorem natOfDigits_append_digits (front digits : List Char) :
    natOfDigits (front ++ digits) =
      natOfDigits front * 10 ^ digits.length + natOfDigits digits := by
  induction digits using List.reverseRecOn with
  | nil => simp [natOfDigits]
  | append_singleton digits c ih =>
    rw [← List.append_assoc, natOfDigits_append, natOfDigits_append, ih, List.length_append,
      List.length_singleton, pow_succ]
    ring

theorem natOfDigits_lt (h : ∀ c ∈ digits, c.isDigit) : natOfDigits digits < 10 ^ digits.length := by
  induction digits using List.reverseRecOn with
  | nil => simp [natOfDigits]
  | append_singleton digits c ih =>
    have hc := (digitsOf_of_isDigit (h c (by simp))).1
    have hlt := ih fun d hd => h d (by simp [hd])
    rw [natOfDigits_append, List.length_append, List.length_singleton, pow_succ]
    omega

/-- Of as many digits one row alone has a number. -/
theorem eq_of_natOfDigits_eq {other : List Char} (h : ∀ c ∈ digits, c.isDigit)
    (h' : ∀ c ∈ other, c.isDigit) (hlength : digits.length = other.length)
    (hnumber : natOfDigits digits = natOfDigits other) : digits = other := by
  by_cases hne : digits = []
  · subst hne
    exact (List.length_eq_zero_iff.mp hlength.symm).symm
  · have hne' : other ≠ [] := by
      rintro rfl
      exact hne (List.length_eq_zero_iff.mp hlength)
    obtain ⟨zeros, hzeros⟩ := exists_zeros_of_digits hne h
    obtain ⟨zeros', hzeros'⟩ := exists_zeros_of_digits hne' h'
    rw [hzeros, hzeros', ← hnumber] at hlength
    simp only [List.length_append, List.length_replicate] at hlength
    rw [hzeros, hzeros', ← hnumber, Nat.add_right_cancel hlength]

end Cartouche
