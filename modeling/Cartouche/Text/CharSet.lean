/-!
Sets of characters, given as ranges of code points in ascending order. The tables of scripts beside
this module hold the characters of Unicode 17.
-/
namespace Cartouche.Text

/-- Ranges with both ends included. -/
abbrev CharSet := List (Nat × Nat)

def CharSet.contains (s : CharSet) (c : Char) : Bool :=
  s.any fun r => r.1 ≤ c.toNat && c.toNat ≤ r.2

theorem CharSet.contains_of_mem {s : CharSet} {r : Nat × Nat} {c : Char} (h : r ∈ s)
    (low : r.1 ≤ c.toNat) (high : c.toNat ≤ r.2) : s.contains c := by
  simp only [contains, List.any_eq_true, Bool.and_eq_true, decide_eq_true_eq]
  exact ⟨r, h, low, high⟩

/-! The classes of the first characters, as the ranges that they are. -/

theorem range_of_isUpper {c : Char} (h : c.isUpper) : 0x41 ≤ c.toNat ∧ c.toNat ≤ 0x5A := by
  have ⟨low, high⟩ := of_decide_eq_true h
  exact ⟨UInt32.le_iff_toNat_le.1 low, UInt32.le_iff_toNat_le.1 high⟩

theorem range_of_isLower {c : Char} (h : c.isLower) : 0x61 ≤ c.toNat ∧ c.toNat ≤ 0x7A := by
  have ⟨low, high⟩ := (Bool.and_eq_true _ _).mp h
  exact ⟨UInt32.le_iff_toNat_le.1 (of_decide_eq_true low),
    UInt32.le_iff_toNat_le.1 (of_decide_eq_true high)⟩

theorem range_of_isDigit {c : Char} (h : c.isDigit) : 0x30 ≤ c.toNat ∧ c.toNat ≤ 0x39 := by
  have ⟨low, high⟩ := (Bool.and_eq_true _ _).mp h
  exact ⟨UInt32.le_iff_toNat_le.1 (of_decide_eq_true low),
    UInt32.le_iff_toNat_le.1 (of_decide_eq_true high)⟩

end Cartouche.Text
