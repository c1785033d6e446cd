import Mathlib

/-!
The nearest number. Numbers of the machine are multiples of powers of two by at most fifty-three
bits; an exact value goes to the nearest of them, and a tie to the even one. All is said in exact
rationals and without a greatest number, so that rounding is monotone and what it loses is bounded.
-/
namespace Cartouche

/-- The nearest integer, a tie going to the even one. -/
def tieEven (x : ℚ) : ℤ :=
  if Int.fract x < 1 / 2 then ⌊x⌋ else if 1 / 2 < Int.fract x then ⌊x⌋ + 1 else ⌊x⌋ + ⌊x⌋ % 2

/-- The numbers around a magnitude are the multiples of this power of two. -/
def gridExponent (x : ℚ) : ℤ :=
  max (Int.log 2 |x| - 52) (-1074)

def grid (x : ℚ) : ℚ :=
  2 ^ gridExponent x

def nearest (x : ℚ) : ℚ :=
  tieEven (x / grid x) * grid x

/-- What the machine has a number for, were there no greatest one. -/
def IsNumber (x : ℚ) : Prop :=
  ∃ k e : ℤ, |k| < 2 ^ 53 ∧ -1074 ≤ e ∧ x = k * 2 ^ e

/-- A multiple of the least number above zero. -/
def OnFinestGrid (x : ℚ) : Prop :=
  ∃ k : ℤ, x = k * 2 ^ (-1074 : ℤ)

variable {x y s : ℚ} {k e : ℤ}

theorem floor_le_tieEven (x : ℚ) : ⌊x⌋ ≤ tieEven x := by
  unfold tieEven
  split_ifs <;> omega

theorem tieEven_le_floor_add_one (x : ℚ) : tieEven x ≤ ⌊x⌋ + 1 := by
  unfold tieEven
  split_ifs <;> omega

theorem tieEven_intCast (k : ℤ) : tieEven k = k := by
  simp [tieEven]

theorem tieEven_mono (h : x ≤ y) : tieEven x ≤ tieEven y := by
  rcases (Int.floor_le_floor h).lt_or_eq with hlt | heq
  · calc tieEven x ≤ ⌊x⌋ + 1 := tieEven_le_floor_add_one x
      _ ≤ ⌊y⌋ := hlt
      _ ≤ tieEven y := floor_le_tieEven y
  · have hx := Int.floor_add_fract x
    have hy := Int.floor_add_fract y
    rw [heq] at hx
    unfold tieEven
    rw [heq]
    split_ifs <;> first | omega | linarith

theorem tieEven_neg (x : ℚ) : tieEven (-x) = -tieEven x := by
  by_cases hx : Int.fract x = 0
  · have hint : x = (⌊x⌋ : ℤ) := by linarith [Int.floor_add_fract x]
    rw [hint, ← Int.cast_neg, tieEven_intCast, tieEven_intCast]
  · have hfract : Int.fract (-x) = 1 - Int.fract x := Int.fract_neg hx
    have hfloor : ⌊-x⌋ = -⌊x⌋ - 1 := by
      have hsum := Int.floor_add_fract x
      have hneg := Int.floor_add_fract (-x)
      have hcast : ((⌊-x⌋ : ℤ) : ℚ) = ((-⌊x⌋ - 1 : ℤ) : ℚ) := by
        push_cast
        linarith
      exact_mod_cast hcast
    unfold tieEven
    rw [hfloor, hfract]
    split_ifs <;> first | omega | linarith

theorem abs_tieEven_sub_le (x : ℚ) : |tieEven x - x| ≤ 1 / 2 := by
  have hsum := Int.floor_add_fract x
  have hlow := Int.fract_nonneg x
  have hhigh := Int.fract_lt_one x
  have hmod : ((⌊x⌋ % 2 : ℤ) : ℚ) = 0 ∨ ((⌊x⌋ % 2 : ℤ) : ℚ) = 1 := by
    rcases Int.emod_two_eq_zero_or_one ⌊x⌋ with h | h <;> simp [h]
  unfold tieEven
  rw [abs_le]
  split_ifs <;> push_cast <;> constructor <;> rcases hmod with h | h <;> linarith

/-! The grid around a value. -/

theorem grid_pos (x : ℚ) : 0 < grid x :=
  zpow_pos two_pos _

theorem gridExponent_neg (x : ℚ) : gridExponent (-x) = gridExponent x := by
  rw [gridExponent, gridExponent, abs_neg]

theorem grid_neg (x : ℚ) : grid (-x) = grid x := by
  rw [grid, grid, gridExponent_neg]

theorem nearest_neg (x : ℚ) : nearest (-x) = -nearest x := by
  rw [nearest, nearest, grid_neg, neg_div, tieEven_neg, Int.cast_neg, neg_mul]

theorem nearest_zero : nearest 0 = 0 := by
  have h := tieEven_intCast 0
  rw [Int.cast_zero] at h
  rw [nearest, zero_div, h, Int.cast_zero, zero_mul]

theorem least_le_gridExponent (x : ℚ) : -1074 ≤ gridExponent x :=
  le_max_right _ _

theorem gridExponent_mono (hx : x ≠ 0) (h : |x| ≤ |y|) : gridExponent x ≤ gridExponent y :=
  max_le_max_right _ (Int.sub_le_sub_right (Int.log_mono_right (abs_pos.mpr hx) h) 52)

/-- A multiple of a power of two is one of each smaller power. -/
theorem exists_mul_zpow (k : ℤ) {d e : ℤ} (h : d ≤ e) :
    ∃ n : ℤ, (k * 2 ^ e : ℚ) = n * 2 ^ d := by
  refine ⟨k * 2 ^ (e - d).toNat, ?_⟩
  have hsplit : (2 : ℚ) ^ e = 2 ^ ((e - d).toNat : ℤ) * 2 ^ d := by
    rw [← zpow_add₀ two_ne_zero]
    congr 1
    omega
  rw [hsplit, zpow_natCast]
  push_cast
  ring

theorem nearest_le_of_le_mul (h : x ≤ k * grid x) : nearest x ≤ k * grid x := by
  have hdiv : x / grid x ≤ k := (div_le_iff₀ (grid_pos x)).mpr h
  have hround : tieEven (x / grid x) ≤ k := (tieEven_mono hdiv).trans_eq (tieEven_intCast k)
  exact mul_le_mul_of_nonneg_right (by exact_mod_cast hround) (grid_pos x).le

theorem le_nearest_of_mul_le (h : k * grid x ≤ x) : k * grid x ≤ nearest x := by
  have hdiv : k ≤ x / grid x := (le_div_iff₀ (grid_pos x)).mpr h
  have hround : k ≤ tieEven (x / grid x) := (tieEven_intCast k).symm.trans_le (tieEven_mono hdiv)
  exact mul_le_mul_of_nonneg_right (by exact_mod_cast hround) (grid_pos x).le

theorem nearest_nonneg (h : 0 ≤ x) : 0 ≤ nearest x := by
  have hle := le_nearest_of_mul_le (x := x) (k := 0) (by simpa using h)
  simpa using hle

/-- Above the finest grid the leading bit of a magnitude stands fifty-two places over the last. -/
theorem log_eq_of_gridExponent (h : -1074 < gridExponent x) :
    Int.log 2 |x| = gridExponent x + 52 := by
  unfold gridExponent at h ⊢
  omega

theorem tieEven_div_grid_le (hx : 0 < x) : tieEven (x / grid x) ≤ 2 ^ 53 := by
  have hlog : Int.log 2 x + 1 ≤ 53 + gridExponent x := by
    have hle : Int.log 2 |x| - 52 ≤ gridExponent x := le_max_left _ _
    rw [abs_of_pos hx] at hle
    omega
  have hlt : x < (2 : ℚ) ^ (53 + gridExponent x) :=
    (Int.lt_zpow_succ_log_self one_lt_two x).trans_le (zpow_le_zpow_right₀ one_le_two hlog)
  have hdiv : x / grid x ≤ ((2 ^ 53 : ℤ) : ℚ) := by
    rw [div_le_iff₀ (grid_pos x)]
    rw [zpow_add₀ two_ne_zero] at hlt
    exact hlt.le.trans_eq (congrArg (· * grid x) (by norm_num))
  exact (tieEven_mono hdiv).trans_eq (tieEven_intCast _)

theorem le_tieEven_div_grid (hx : 0 < x) (h : -1074 < gridExponent x) :
    2 ^ 52 ≤ tieEven (x / grid x) := by
  have hlog := log_eq_of_gridExponent h
  rw [abs_of_pos hx] at hlog
  have hle : (2 : ℚ) ^ (52 + gridExponent x) ≤ x := by
    rw [add_comm, ← hlog]
    exact Int.zpow_log_le_self one_lt_two hx
  have hdiv : ((2 ^ 52 : ℤ) : ℚ) ≤ x / grid x := by
    rw [le_div_iff₀ (grid_pos x)]
    rw [zpow_add₀ two_ne_zero] at hle
    exact (congrArg (· * grid x) (by norm_num)).trans_le hle
  exact (tieEven_intCast _).symm.trans_le (tieEven_mono hdiv)

/-- Between two grids lies a power of two that is on both. -/
theorem nearest_mono_of_nonneg (hx : 0 < x) (h : x ≤ y) : nearest x ≤ nearest y := by
  have hy : 0 < y := hx.trans_le h
  have habs : |x| ≤ |y| := by rwa [abs_of_pos hx, abs_of_pos hy]
  rcases (gridExponent_mono hx.ne' habs).lt_or_eq with hlt | heq
  · have hlogy := log_eq_of_gridExponent ((least_le_gridExponent x).trans_lt hlt)
    have hlogx : Int.log 2 |x| < Int.log 2 |y| := by
      have hle : Int.log 2 |x| - 52 ≤ gridExponent x := le_max_left _ _
      omega
    rw [abs_of_pos hx] at hlogx
    rw [abs_of_pos hy] at hlogx hlogy
    have hbelow : x ≤ 2 ^ Int.log 2 y :=
      ((Int.lt_zpow_iff_log_lt one_lt_two hx).mpr hlogx).le
    have habove : (2 : ℚ) ^ Int.log 2 y ≤ y := Int.zpow_log_le_self one_lt_two hy
    obtain ⟨k, hk⟩ := exists_mul_zpow 1 (d := gridExponent x) (e := Int.log 2 y) (by omega)
    obtain ⟨n, hn⟩ := exists_mul_zpow 1 (d := gridExponent y) (e := Int.log 2 y) (by omega)
    rw [Int.cast_one, one_mul] at hk hn
    calc nearest x ≤ k * grid x := nearest_le_of_le_mul (hbelow.trans_eq hk)
      _ = n * grid y := hk.symm.trans hn
      _ ≤ nearest y := le_nearest_of_mul_le (hn.symm.trans_le habove)
  · have hgrid : grid x = grid y := congrArg ((2 : ℚ) ^ ·) heq
    have hround : tieEven (x / grid x) ≤ tieEven (y / grid y) := by
      rw [hgrid]
      exact tieEven_mono (div_le_div_of_nonneg_right h (grid_pos y).le)
    rw [nearest, nearest, ← hgrid]
    rw [← hgrid] at hround
    exact mul_le_mul_of_nonneg_right (by exact_mod_cast hround) (grid_pos x).le

theorem nearest_mono (h : x ≤ y) : nearest x ≤ nearest y := by
  rcases lt_trichotomy x 0 with hx | rfl | hx
  · rcases lt_or_ge y 0 with hy | hy
    · have hneg := nearest_mono_of_nonneg (neg_pos.mpr hy) (neg_le_neg h)
      rwa [nearest_neg, nearest_neg, neg_le_neg_iff] at hneg
    · have hneg := nearest_nonneg (neg_nonneg.mpr hx.le)
      rw [nearest_neg, Left.nonneg_neg_iff] at hneg
      exact hneg.trans (nearest_nonneg hy)
  · rw [nearest_zero]
    exact nearest_nonneg h
  · exact nearest_mono_of_nonneg hx h

theorem abs_nearest_sub_le (x : ℚ) : |nearest x - x| ≤ grid x / 2 := by
  have hgrid := grid_pos x
  have hscale : nearest x - x = (tieEven (x / grid x) - x / grid x) * grid x := by
    rw [nearest, sub_mul, div_mul_cancel₀ x hgrid.ne']
  rw [hscale, abs_mul, abs_of_pos hgrid]
  have hle := mul_le_mul_of_nonneg_right (abs_tieEven_sub_le (x / grid x)) hgrid.le
  linarith

/-! What rounding leaves alone, and how much it moves the rest. -/

theorem gridExponent_mul_zpow_le (hk : |k| < 2 ^ 53) (he : -1074 ≤ e) (hne : k ≠ 0) :
    gridExponent (k * 2 ^ e) ≤ e := by
  have hpos : (0 : ℚ) < 2 ^ e := zpow_pos two_pos e
  have habs : |(k * 2 ^ e : ℚ)| = (|k| : ℤ) * 2 ^ e := by
    rw [abs_mul, abs_of_pos hpos, Int.cast_abs]
  have hlt : |(k * 2 ^ e : ℚ)| < 2 ^ (e + 53) := by
    have hcast : ((|k| : ℤ) : ℚ) < 2 ^ 53 := by exact_mod_cast hk
    rw [habs, zpow_add₀ two_ne_zero, mul_comm (2 ^ e)]
    exact mul_lt_mul_of_pos_right hcast hpos
  have hnz : (k * 2 ^ e : ℚ) ≠ 0 := mul_ne_zero (by exact_mod_cast hne) hpos.ne'
  have hlog := (Int.lt_zpow_iff_log_lt one_lt_two (abs_pos.mpr hnz)).mp hlt
  unfold gridExponent
  omega

theorem nearest_of_isNumber (h : IsNumber x) : nearest x = x := by
  obtain ⟨k, e, hk, he, rfl⟩ := h
  by_cases hzero : k = 0
  · rw [hzero, Int.cast_zero, zero_mul, nearest_zero]
  · obtain ⟨n, hn⟩ := exists_mul_zpow k (gridExponent_mul_zpow_le hk he hzero)
    change (k * 2 ^ e : ℚ) = n * grid (k * 2 ^ e) at hn
    rw [nearest]
    nth_rewrite 1 [hn]
    rw [mul_div_cancel_right₀ _ (grid_pos _).ne', tieEven_intCast, ← hn]

theorem nearest_one : nearest 1 = 1 :=
  nearest_of_isNumber ⟨1, 0, by norm_num, by norm_num, by norm_num⟩

namespace OnFinestGrid

theorem sub (hx : OnFinestGrid x) (hy : OnFinestGrid y) : OnFinestGrid (x - y) := by
  obtain ⟨k, rfl⟩ := hx
  obtain ⟨n, rfl⟩ := hy
  exact ⟨k - n, by rw [Int.cast_sub, sub_mul]⟩

theorem mul_natCast (hx : OnFinestGrid x) (n : ℕ) : OnFinestGrid (x * n) := by
  obtain ⟨k, rfl⟩ := hx
  exact ⟨k * n, by rw [Int.cast_mul, Int.cast_natCast, mul_right_comm]⟩

end OnFinestGrid

theorem IsNumber.onFinestGrid (h : IsNumber x) : OnFinestGrid x := by
  obtain ⟨k, e, -, he, rfl⟩ := h
  exact exists_mul_zpow k he

theorem onFinestGrid_nearest (x : ℚ) : OnFinestGrid (nearest x) :=
  exists_mul_zpow _ (least_le_gridExponent x)

theorem grid_le_mul (hx : 0 < x) (h : -1074 < gridExponent x) : grid x ≤ x * 2⁻¹ ^ 52 := by
  have hlog := log_eq_of_gridExponent h
  rw [abs_of_pos hx] at hlog
  have hlead : (2 : ℚ) ^ Int.log 2 x ≤ x := Int.zpow_log_le_self one_lt_two hx
  rw [hlog, zpow_add₀ two_ne_zero] at hlead
  change grid x * 2 ^ 52 ≤ x at hlead
  linarith

/-- Above the finest grid a magnitude is moved by at most one part in two to the fifty-third. -/
theorem nearest_le_mul_of_lt (hx : 0 ≤ x) (h : -1074 < gridExponent x) :
    nearest x ≤ x * (1 + 2⁻¹ ^ 53) := by
  rcases hx.eq_or_lt with rfl | hpos
  · rw [nearest_zero, zero_mul]
  · have hgrid := grid_le_mul hpos h
    have herror := (abs_le.mp (abs_nearest_sub_le x)).2
    linarith

/-- On the finest grid nothing is moved, so that there no more is lost. -/
theorem nearest_le_mul (hx : 0 ≤ x) (h : OnFinestGrid x) : nearest x ≤ x * (1 + 2⁻¹ ^ 53) := by
  rcases (least_le_gridExponent x).eq_or_lt with heq | hlt
  · obtain ⟨k, hk⟩ := h
    have hgrid : x = k * grid x := by rw [grid, ← heq]; exact hk
    have hle := nearest_le_of_le_mul hgrid.le
    rw [← hgrid] at hle
    linarith
  · exact nearest_le_mul_of_lt hx hlt

end Cartouche
