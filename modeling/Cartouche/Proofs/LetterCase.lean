import Cartouche.Text.Alphanumeric
import Cartouche.Text.Blank
import Cartouche.Text.Lowercase
import Mathlib.Data.Nat.Bitwise

/-!
Lower forms are lower already, and alphanumeric where the character is. The dotted I alone has a
form of two characters, and the second of them is a mark that is no letter.
-/
namespace Cartouche.Text

/-- The capital whose form keeps its dot as a mark. -/
def dottedI : Char := '\u0130'

/-- The mark that is left of it. -/
def dotAbove : Char := '\u0307'

/-! Sets of numbers as the bits of one number, so that two whole tables are compared at once. -/

section Bits
variable {α : Type} {f : α → Nat} {xs : List α} {x : α} {n : Nat}

/-- The numbers that are in the set of one of several. -/
def bitUnion (f : α → Nat) (xs : List α) : Nat :=
  xs.foldr (fun x bits => f x ||| bits) 0

theorem testBit_bitUnion_iff : (bitUnion f xs).testBit n ↔ ∃ x ∈ xs, (f x).testBit n := by
  induction xs with
  | nil => simp [bitUnion]
  | cons x xs ih =>
    have hcons : bitUnion f (x :: xs) = f x ||| bitUnion f xs := rfl
    simp [hcons, ih]

theorem testBit_bitUnion (hx : x ∈ xs) (h : (f x).testBit n) : (bitUnion f xs).testBit n :=
  testBit_bitUnion_iff.mpr ⟨x, hx, h⟩

theorem testBit_shifted {bits : Nat} (k : Nat) (h : bits.testBit n) :
    (bits <<< k).testBit (k + n) := by
  simp [h]

def CharSet.bits (s : CharSet) : Nat :=
  bitUnion (fun range => (2 ^ (range.2 + 1 - range.1) - 1) <<< range.1) s

theorem CharSet.testBit_bits_iff {s : CharSet} {c : Char} :
    s.bits.testBit c.toNat ↔ s.contains c := by
  rw [bits, testBit_bitUnion_iff, contains, List.any_eq_true]
  refine exists_congr fun range => and_congr_right fun _ => ?_
  simp only [Nat.testBit_shiftLeft, Nat.testBit_two_pow_sub_one, Bool.and_eq_true,
    decide_eq_true_eq]
  omega

end Bits

namespace CaseRun

/-- How far the capitals of a run stand behind its first. -/
def distances (r : CaseRun) : Nat :=
  bitUnion (fun i => 1 <<< (r.step * i)) (List.range ((r.last - r.first) / r.step + 1))

def lastForm (r : CaseRun) : Nat := r.form + (r.last - r.first)

/-- No form of a run is a surrogate. -/
def formsValid (r : CaseRun) : Bool :=
  r.lastForm.blt 0xD800 || (Nat.blt 0xDFFF r.form && r.lastForm.blt 0x110000)

variable {r : CaseRun} {n m : Nat}

theorem lower?_eq_some_iff : r.lower? n = some m ↔
    (r.first ≤ n ∧ n ≤ r.last ∧ (n - r.first) % r.step = 0) ∧ m = r.form + (n - r.first) := by
  unfold lower?
  split <;> simp_all [eq_comm]

theorem testBit_distances (h : r.lower? n = some m) : r.distances.testBit (n - r.first) := by
  obtain ⟨⟨_, hlast, hstep⟩, _⟩ := lower?_eq_some_iff.mp h
  have hmul : r.step * ((n - r.first) / r.step) = n - r.first :=
    Nat.mul_div_cancel' (Nat.dvd_of_mod_eq_zero hstep)
  have hle : (n - r.first) / r.step ≤ (r.last - r.first) / r.step :=
    Nat.div_le_div_right (by omega)
  refine testBit_bitUnion (List.mem_range.mpr (Nat.lt_succ_of_le hle)) ?_
  simp [hmul]

theorem toNat_of_formsValid (h : r.formsValid) (hm : r.lower? n = some m) :
    (Char.ofNat m).toNat = m := by
  obtain ⟨⟨_, hlast, _⟩, rfl⟩ := lower?_eq_some_iff.mp hm
  simp only [formsValid, lastForm, Bool.or_eq_true, Bool.and_eq_true, Nat.blt_eq] at h
  have hvalid : (r.form + (n - r.first)).isValidChar := by
    unfold Nat.isValidChar
    omega
  rw [Char.ofNat, dif_pos hvalid]
  rfl

end CaseRun

/-- All that has a lower form, -/
def capitals : Nat :=
  bitUnion (fun r => r.distances <<< r.first) caseRuns

/-- and all that is one. -/
def smallLetters : Nat :=
  bitUnion (fun r => r.distances <<< r.form) caseRuns

/-- What the tables say of each other and of the dotted I, which no run holds. They are long, so
that all of it is computed in one go. -/
theorem tables_agree :
    capitals &&& smallLetters = 0 ∧ smallLetters ||| alphanumerics.bits = alphanumerics.bits ∧
      CharSet.bits blanks &&& alphanumerics.bits = 0 ∧ caseRuns.all CaseRun.formsValid = true ∧
      smallLetters.testBit dottedI.toNat = false ∧
      [dottedI, dotAbove, '-'].map isAlphanumeric = [true, false, false] := by
  decide +kernel

variable {c d : Char} {r : CaseRun} {n m : Nat}

theorem lower_of_findSome? (h : c ≠ dottedI) :
    lower c = match caseRuns.findSome? (·.lower? c.toNat) with
      | some n => [Char.ofNat n]
      | none => [c] :=
  if_neg h

theorem testBit_capitals (hr : r ∈ caseRuns) (hm : r.lower? n = some m) : capitals.testBit n := by
  obtain ⟨⟨hfirst, _, _⟩, _⟩ := CaseRun.lower?_eq_some_iff.mp hm
  have hbit := testBit_shifted r.first (CaseRun.testBit_distances hm)
  rw [Nat.add_sub_cancel' hfirst] at hbit
  exact testBit_bitUnion hr hbit

theorem testBit_smallLetters (hr : r ∈ caseRuns) (hm : r.lower? n = some m) :
    smallLetters.testBit m := by
  obtain ⟨_, rfl⟩ := CaseRun.lower?_eq_some_iff.mp hm
  exact testBit_bitUnion hr (testBit_shifted r.form (CaseRun.testBit_distances hm))

/-- What a run gives is alphanumeric, and a form of its own. -/
theorem lower_form (hr : r ∈ caseRuns) (hm : r.lower? n = some m) :
    lower (Char.ofNat m) = [Char.ofNat m] ∧ isAlphanumeric (Char.ofNat m) ∧
      Char.ofNat m ≠ dottedI := by
  obtain ⟨hcapital, hletters, _, hvalid, hdotted, _⟩ := tables_agree
  have htoNat := CaseRun.toNat_of_formsValid (List.all_eq_true.mp hvalid r hr) hm
  have hsmall : smallLetters.testBit (Char.ofNat m).toNat := by
    rw [htoNat]
    exact testBit_smallLetters hr hm
  have hne : Char.ofNat m ≠ dottedI := by
    intro he
    rw [he, hdotted] at hsmall
    cases hsmall
  have hnone : caseRuns.findSome? (·.lower? (Char.ofNat m).toNat) = none := by
    rw [List.findSome?_eq_none_iff]
    intro q hq
    by_contra hsome
    obtain ⟨k, hk⟩ := Option.ne_none_iff_exists'.mp hsome
    have hboth := congrArg (·.testBit (Char.ofNat m).toNat) hcapital
    simp [testBit_capitals hq hk, hsmall] at hboth
  refine ⟨?_, ?_, hne⟩
  · rw [lower_of_findSome? hne, hnone]
  · rw [isAlphanumeric, ← CharSet.testBit_bits_iff, ← hletters]
    simp [hsmall]

/-- Every character but the dotted I has one character for its form, which is a form of its own. -/
theorem exists_lower (h : c ≠ dottedI) : ∃ d, lower c = [d] ∧ lower d = [d] ∧ d ≠ dottedI ∧
    (isAlphanumeric c → isAlphanumeric d) := by
  cases hfind : caseRuns.findSome? (·.lower? c.toNat) with
  | none =>
    have hself : lower c = [c] := by rw [lower_of_findSome? h, hfind]
    exact ⟨c, hself, hself, h, id⟩
  | some m =>
    obtain ⟨r, hr, hm⟩ := List.exists_of_findSome?_eq_some hfind
    obtain ⟨hlower, halpha, hne⟩ := lower_form hr hm
    exact ⟨Char.ofNat m, by rw [lower_of_findSome? h, hfind], hlower, hne, fun _ => halpha⟩

theorem alphanumeric_marks : isAlphanumeric dottedI ∧ isAlphanumeric dotAbove = false ∧
    isAlphanumeric '-' = false := by
  obtain ⟨_, _, _, _, _, hmarks⟩ := tables_agree
  simpa using hmarks

theorem isAlphanumeric_dottedI : isAlphanumeric dottedI :=
  alphanumeric_marks.1

theorem not_isAlphanumeric_dotAbove : isAlphanumeric dotAbove = false :=
  alphanumeric_marks.2.1

theorem not_isAlphanumeric_dash : isAlphanumeric '-' = false :=
  alphanumeric_marks.2.2

theorem lower_ne_nil (c : Char) : lower c ≠ [] := by
  by_cases h : c = dottedI
  · subst h
    decide
  · obtain ⟨d, hd, _⟩ := exists_lower h
    simp [hd]

/-- A mark that is no letter comes from the dotted I alone. -/
theorem mem_lower (hc : isAlphanumeric c) (hd : d ∈ lower c) :
    isAlphanumeric d ∧ lower d = [d] ∧ d ≠ dottedI ∨ c = dottedI ∧ d = dotAbove := by
  by_cases h : c = dottedI
  · subst h
    have hform : lower dottedI = ['i', dotAbove] := rfl
    rw [hform, List.mem_cons, List.mem_singleton] at hd
    obtain rfl | rfl := hd
    · exact Or.inl ⟨isAlphanumeric_of_isAlphanum rfl, rfl, by decide⟩
    · exact Or.inr ⟨rfl, rfl⟩
  · obtain ⟨x, hx, hlower, hne, halpha⟩ := exists_lower h
    rw [hx, List.mem_singleton] at hd
    subst hd
    exact Or.inl ⟨halpha hc, hlower, hne⟩

/-- No blank is alphanumeric. -/
theorem isAlphanumeric_of_isBlank (h : isBlank c) : isAlphanumeric c = false := by
  obtain ⟨_, _, hblanks, _⟩ := tables_agree
  rw [Bool.eq_false_iff]
  intro halpha
  have hboth := congrArg (·.testBit c.toNat) hblanks
  have hblank := CharSet.testBit_bits_iff.mpr h
  have hletter := CharSet.testBit_bits_iff.mpr halpha
  simp [hblank, hletter] at hboth

end Cartouche.Text
