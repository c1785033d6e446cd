import Mathlib.Data.Prod.Lex
import Mathlib.Order.Compare

/-!
The order of machine numbers. Comparisons are decided by a rank in a linear order, in which all
numbers have their place but the one that is no number; the two zeros share theirs.
-/
namespace Cartouche
open Float.Model (UnpackedFloat)

/-- By sign, then by exponent, then by significand; the last two count backwards below zero. -/
abbrev Rank := Int ×ₗ Int ×ₗ Int

def unpackedRank : UnpackedFloat → Rank
  | .notANumber => toLex (0, toLex (0, 0))
  | .infinity .negative => toLex (-2, toLex (0, 0))
  | .finite .negative significand exponent _ => toLex (-1, toLex (-exponent, -significand))
  | .zero _ => toLex (0, toLex (0, 0))
  | .finite .positive significand exponent _ => toLex (1, toLex (exponent, significand))
  | .infinity .positive => toLex (2, toLex (0, 0))

def rank (x : Float) : Rank :=
  unpackedRank x.toModel.unpack

theorem compare_natCast (m n : Nat) : compare (m : Int) n = compare m n := by
  rcases lt_trichotomy m n with h | h | h
  · rw [compare_lt_iff_lt.mpr h, compare_lt_iff_lt.mpr (by omega)]
  · simp [h]
  · rw [compare_gt_iff_gt.mpr h, compare_gt_iff_gt.mpr (by omega)]

theorem compare_neg_neg (a b : Int) : compare (-a) (-b) = (compare a b).swap := by
  rcases lt_trichotomy a b with h | h | h
  · rw [compare_lt_iff_lt.mpr h, compare_gt_iff_gt.mpr (by omega)]
    rfl
  · simp [h]
  · rw [compare_gt_iff_gt.mpr h, compare_lt_iff_lt.mpr (by omega)]
    rfl

/-- Only two finite numbers of one sign are compared by more than what they are. -/
theorem compare_eq_compare_rank {a b : UnpackedFloat} (ha : a.isNaN = false)
    (hb : b.isNaN = false) : a.compare b = some (compare (unpackedRank a) (unpackedRank b)) := by
  cases a with
  | notANumber => cases ha
  | infinity s =>
    cases b with
    | notANumber => cases hb
    | infinity s' => cases s <;> cases s' <;> rfl
    | zero s' => cases s <;> rfl
    | finite s' m e h => cases s <;> cases s' <;> rfl
  | zero s =>
    cases b with
    | notANumber => cases hb
    | infinity s' => cases s' <;> rfl
    | zero s' => rfl
    | finite s' m e h => cases s' <;> rfl
  | finite s m e h =>
    cases b with
    | notANumber => cases hb
    | infinity s' => cases s <;> cases s' <;> rfl
    | zero s' => cases s <;> rfl
    | finite s' m' e' h' =>
      cases s <;> cases s'
      · change some ((compare e e').then (compare m m')).swap = some (compare
          (toLex ((-1 : Int), toLex (-e, -(m : Int))))
          (toLex ((-1 : Int), toLex (-e', -(m' : Int)))))
        simp [Prod.Lex.compare_def, compareLex, compareOn, compare_neg_neg, compare_natCast,
          Ordering.swap_then]
      · rfl
      · rfl
      · change some ((compare e e').then (compare m m')) = some (compare
          (toLex ((1 : Int), toLex (e, (m : Int)))) (toLex ((1 : Int), toLex (e', (m' : Int)))))
        simp [Prod.Lex.compare_def, compareLex, compareOn, compare_natCast]

variable {x y : Float}

theorem isNaN_eq_false_of_isFinite (h : x.isFinite = true) : x.isNaN = false := by
  have h : x.toModel.unpack.isFinite = true := h
  have hgoal : x.toModel.unpack.isNaN = false := by
    cases hx : x.toModel.unpack with
    | notANumber =>
      rw [hx] at h
      cases h
    | _ => rfl
  exact hgoal

theorem compare_unpack (hx : x.isNaN = false) (hy : y.isNaN = false) :
    x.toModel.unpack.compare y.toModel.unpack = some (compare (rank x) (rank y)) :=
  compare_eq_compare_rank hx hy

theorem lt_iff_compare (x y : Float) :
    x < y ↔ x.toModel.unpack.compare y.toModel.unpack = some .lt := by
  change decide (x.toModel < y.toModel) = true ↔ _
  rw [decide_eq_true_iff]
  exact beq_iff_eq

theorem le_iff_compare (x y : Float) :
    x ≤ y ↔ (x.toModel.unpack.compare y.toModel.unpack).any (·.isLE) := by
  change decide (x.toModel ≤ y.toModel) = true ↔ _
  rw [decide_eq_true_iff]
  rfl

theorem lt_iff_rank_lt (hx : x.isNaN = false) (hy : y.isNaN = false) :
    x < y ↔ rank x < rank y := by
  rw [lt_iff_compare, compare_unpack hx hy, Option.some_inj, compare_lt_iff_lt]

theorem le_iff_rank_le (hx : x.isNaN = false) (hy : y.isNaN = false) :
    x ≤ y ↔ rank x ≤ rank y := by
  rw [le_iff_compare, compare_unpack hx hy, Option.any_some, Ordering.isLE_iff_ne_gt]
  exact compare_le_iff_le

theorem beq_iff_rank_eq (hx : x.isNaN = false) (hy : y.isNaN = false) :
    (x == y) = true ↔ rank x = rank y := by
  have heq : (x == y) = true ↔ x.toModel.unpack.compare y.toModel.unpack = some .eq := by
    change (x.toModel.unpack.compare y.toModel.unpack == some .eq) = true ↔ _
    exact beq_iff_eq
  rw [heq, compare_unpack hx hy, Option.some_inj, compare_eq_iff_eq]

/-- What is no number compares with nothing. -/
theorem isNaN_of_le (h : x ≤ y) : x.isNaN = false ∧ y.isNaN = false := by
  rw [le_iff_compare] at h
  have hgoal : x.toModel.unpack.isNaN = false ∧ y.toModel.unpack.isNaN = false := by
    cases hx : x.toModel.unpack with
    | notANumber =>
      rw [hx] at h
      cases h
    | _ =>
      refine ⟨rfl, ?_⟩
      cases hy : y.toModel.unpack with
      | notANumber =>
        rw [hx, hy] at h
        cases h
      | _ => rfl
  exact hgoal

/-- Of two numbers one is reached by the other. -/
theorem lt_iff_not_le (hx : x.isNaN = false) (hy : y.isNaN = false) : x < y ↔ ¬ y ≤ x := by
  rw [lt_iff_rank_lt hx hy, le_iff_rank_le hy hx, not_le]

end Cartouche
