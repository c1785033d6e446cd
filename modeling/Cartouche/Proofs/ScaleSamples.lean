import Cartouche.Legend.Synthesis
import Cartouche.Proofs.DecimalRounding
import Cartouche.Proofs.ScalePositions

/-!
Samples of a scale, in the numbers of the machine. The width is multiplied by the place of a sample
before it is divided, so the product may be beyond all numbers; where it is not, the samples keep to
the domain, for as many steps as rounding cannot carry over the distance to the end.
-/
namespace Cartouche

variable {low high x : Float} {a b d p r : ℚ} {i j n steps : ℕ}

/-! What rounding adds to a part of a width stays below the rest of the width. -/

theorem mul_cube_le (hi : i < n) (hn : n ≤ 2 ^ 51) : (i : ℚ) * (1 + 2⁻¹ ^ 53) ^ 3 ≤ n := by
  have hrest : (i : ℚ) + 1 ≤ n := by exact_mod_cast hi
  have hwide : (i : ℚ) ≤ 2 ^ 51 := by exact_mod_cast hi.le.trans hn
  calc (i : ℚ) * (1 + 2⁻¹ ^ 53) ^ 3 ≤ i * (1 + 2⁻¹ ^ 51) :=
        mul_le_mul_of_nonneg_left (by norm_num) (Nat.cast_nonneg i)
    _ ≤ i + 1 := by linarith
    _ ≤ n := hrest

theorem nearest_part_le (hd : 0 ≤ d) (hgrid : OnFinestGrid d) (hi : i < n) (hn : n ≤ 2 ^ 51) :
    nearest (nearest (nearest d * i) / n) ≤ d := by
  have hnpos : (0 : ℚ) < n := by exact_mod_cast (Nat.zero_le i).trans_lt hi
  have hi0 : (0 : ℚ) ≤ i := Nat.cast_nonneg i
  have hproduct : 0 ≤ nearest d * i := mul_nonneg (nearest_nonneg hd) hi0
  have hpart : nearest (nearest d * i) * (1 + 2⁻¹ ^ 53) ≤ d * n :=
    calc nearest (nearest d * i) * (1 + 2⁻¹ ^ 53)
        ≤ nearest d * i * (1 + 2⁻¹ ^ 53) * (1 + 2⁻¹ ^ 53) :=
          mul_le_mul_of_nonneg_right
            (nearest_le_mul hproduct ((onFinestGrid_nearest d).mul_natCast i)) (by norm_num)
      _ ≤ d * (1 + 2⁻¹ ^ 53) * i * (1 + 2⁻¹ ^ 53) * (1 + 2⁻¹ ^ 53) := by
          gcongr
          exact nearest_le_mul hd hgrid
      _ = d * (i * (1 + 2⁻¹ ^ 53) ^ 3) := by ring
      _ ≤ d * n := mul_le_mul_of_nonneg_left (mul_cube_le hi hn) hd
  have hpart0 : 0 ≤ nearest (nearest d * i) := nearest_nonneg hproduct
  rcases (least_le_gridExponent (nearest (nearest d * i) / n)).eq_or_lt with heq | hlt
  · obtain ⟨k, hk⟩ := hgrid
    have hk : d = k * grid (nearest (nearest d * i) / n) := by rw [grid, ← heq]; exact hk
    have hle : nearest (nearest d * i) / n ≤ d := by
      rw [div_le_iff₀ hnpos]
      linarith
    exact (nearest_le_of_le_mul (hle.trans_eq hk)).trans_eq hk.symm
  · calc nearest (nearest (nearest d * i) / n)
        ≤ nearest (nearest d * i) / n * (1 + 2⁻¹ ^ 53) :=
          nearest_le_mul_of_lt (div_nonneg hpart0 hnpos.le) hlt
      _ = nearest (nearest d * i) * (1 + 2⁻¹ ^ 53) / n := div_mul_eq_mul_div _ _ _
      _ ≤ d := (div_le_iff₀ hnpos).mpr hpart

/-! The values of products and of their quotients by the number of steps. -/

theorem roundsTo_countOf (n : ℕ) : RoundsTo n (countOf n : Float) := by
  have hread := roundsTo_ofScientific n false 0
  rwa [if_neg Bool.false_ne_true, Nat.cast_zero, zpow_zero, mul_one] at hread

/-- The value of a product divided by a count, which is zero where the count is beyond all
numbers. -/
def share (n : ℕ) (p : ℚ) : ℚ :=
  if (countOf n : Float).isFinite then nearest (p / nearest n) else 0

theorem one_le_nearest (hn : 0 < n) : 1 ≤ nearest n :=
  nearest_one.symm.trans_le (nearest_mono (by exact_mod_cast hn))

theorem share_nonneg (hn : 0 < n) (hp : 0 ≤ p) : 0 ≤ share n p := by
  unfold share
  split
  · exact nearest_nonneg (div_nonneg hp (zero_le_one.trans (one_le_nearest hn)))
  · exact le_rfl

theorem share_mono (hn : 0 < n) (h : p ≤ r) : share n p ≤ share n r := by
  unfold share
  split
  · exact nearest_mono (div_le_div_of_nonneg_right h (zero_le_one.trans (one_le_nearest hn)))
  · exact le_rfl

theorem rational?_div_countOf (hx : rational? x = some p) (hp : 0 ≤ p) (hn : 0 < n) :
    rational? (x / countOf n) = some (share n p) := by
  have hone := one_le_nearest hn
  unfold share
  split
  · next hfinite =>
    have hcount := (roundsTo_countOf n).exact_of_isFinite hfinite
    have hpos : 0 < nearest n := zero_lt_one.trans_le hone
    exact ((roundsTo_div hx hcount hpos.ne').between rational?_zero hx (div_nonneg hp hpos.le)
      (div_le_self hp hone)).1
  · next hinfinite =>
    rcases number_cases (roundsTo_countOf n).isNaN_eq_false with hfinite | ⟨s, hs⟩
    · exact absurd (isFinite_iff_rational?.mpr hfinite) hinfinite
    · exact rational?_div_infinity hx hs

/-- The value of the width by a place, as it is rounded. -/
def product (a b : ℚ) (i : ℕ) : ℚ :=
  nearest (nearest (b - a) * nearest i)

theorem product_nonneg (hab : a ≤ b) : 0 ≤ product a b i :=
  nearest_nonneg (mul_nonneg (nearest_nonneg (sub_nonneg.mpr hab))
    (nearest_nonneg (Nat.cast_nonneg i)))

/-- Where one product is a number, so are those before it. -/
theorem rational?_product (hlow : rational? low = some a) (hhigh : rational? high = some b)
    (hab : a ≤ b) (hfinite : ((high - low) * countOf j).isFinite = true) (hij : i ≤ j) :
    rational? ((high - low) * countOf i) = some (product a b i) ∧
      product a b i ≤ product a b j := by
  obtain ⟨hwidth, hcount⟩ := isFinite_of_mul hfinite
  have hspan := (roundsTo_sub hhigh hlow).exact_of_isFinite hwidth
  have hspan0 : 0 ≤ nearest (b - a) := nearest_nonneg (sub_nonneg.mpr hab)
  have hcountj := (roundsTo_countOf j).exact_of_isFinite hcount
  have hle : (i : ℚ) ≤ j := by exact_mod_cast hij
  have hcounti := (roundsTo_countOf i).exact_of_le hcountj (Nat.cast_nonneg i) hle
  have hproductj := (roundsTo_mul hspan hcountj).exact_of_isFinite hfinite
  have hproductLe : nearest (b - a) * nearest i ≤ nearest (b - a) * nearest j :=
    mul_le_mul_of_nonneg_left (nearest_mono hle) hspan0
  exact ⟨(roundsTo_mul hspan hcounti).exact_of_le hproductj
    (mul_nonneg hspan0 (nearest_nonneg (Nat.cast_nonneg i))) hproductLe, nearest_mono hproductLe⟩

/-! Samples between the ends. -/

theorem sample_between (hi : 0 < i) (hn : i < steps - 1) :
    sample low high steps i = low + (high - low) * countOf i / countOf (steps - 1) := by
  rw [sample, if_neg hi.ne', if_neg hn.ne]

theorem sample_first (low high : Float) (steps : ℕ) : sample low high steps 0 = low :=
  if_pos rfl

theorem sample_last (low high : Float) (hsteps : 2 ≤ steps) :
    sample low high steps (steps - 1) = high := by
  rw [sample, if_neg (by omega), if_pos rfl]

/-- The first and the last sample are the ends of the domain. -/
theorem forall_sample_iff {P : Float → Prop} (hlow : P low) (hhigh : P high) (hsteps : 2 ≤ steps) :
    (∀ i < steps, P (sample low high steps i)) ↔
      ∀ i, 0 < i → i < steps - 1 → P (sample low high steps i) := by
  constructor
  · intro h i _ hi
    exact h i (by omega)
  · intro h i hi
    rcases Nat.eq_zero_or_pos i with rfl | hpos
    · rwa [sample_first]
    · rcases Nat.lt_or_ge i (steps - 1) with hbefore | hafter
      · exact h i hpos hbefore
      · obtain rfl : i = steps - 1 := by omega
        rwa [sample_last low high hsteps]

/-- The exact sum that a sample is rounded from. -/
theorem roundsTo_sample (hlow : rational? low = some a) (hhigh : rational? high = some b)
    (hab : a ≤ b) (hfinite : ((high - low) * countOf j).isFinite = true) (hi : 0 < i) (hij : i ≤ j)
    (hj : j < steps - 1) :
    RoundsTo (a + share (steps - 1) (product a b i)) (sample low high steps i) := by
  have hproduct := (rational?_product hlow hhigh hab hfinite hij).1
  rw [sample_between hi (hij.trans_lt hj)]
  exact roundsTo_add hlow (rational?_div_countOf hproduct (product_nonneg hab) (by omega))

/-- For as many steps as this no part of the width comes to more than the width. -/
theorem share_le (hlow : rational? low = some a) (hhigh : rational? high = some b) (hab : a ≤ b)
    (hj : j < n) (hn : n ≤ 2 ^ 51) : share n (product a b j) ≤ b - a := by
  have hwidth : 0 ≤ b - a := sub_nonneg.mpr hab
  unfold share
  split
  · rw [product, nearest_of_isNumber (isNumber_natCast (by omega : j < 2 ^ 53)),
      nearest_of_isNumber (isNumber_natCast (by omega : n < 2 ^ 53))]
    exact nearest_part_le hwidth ((isNumber_of_rational? hhigh).onFinestGrid.sub
      (isNumber_of_rational? hlow).onFinestGrid) hj hn
  · exact hwidth

/-- The samples are inside once the last one between the ends is. -/
theorem sample_mem (hlow : rational? low = some a) (hhigh : rational? high = some b)
    (hab : a ≤ b) (hfinite : ((high - low) * countOf j).isFinite = true) (hi : 0 < i) (hij : i ≤ j)
    (hj : j < steps - 1) (hend : nearest (a + share (steps - 1) (product a b j)) ≤ b) :
    ∃ v, rational? (sample low high steps i) = some v ∧ a ≤ v ∧ v ≤ b := by
  have hpos : 0 < steps - 1 := (Nat.zero_le j).trans_lt hj
  have hshare := share_mono hpos (rational?_product hlow hhigh hab hfinite hij).2
  have hle : nearest (a + share (steps - 1) (product a b i)) ≤ b :=
    (nearest_mono (add_le_add_right hshare a)).trans hend
  have hge : a ≤ nearest (a + share (steps - 1) (product a b i)) := by
    have hmono := nearest_mono (le_add_of_nonneg_right (a := a)
      (share_nonneg (p := product a b i) hpos (product_nonneg hab)))
    rwa [nearest_of_isNumber (isNumber_of_rational? hlow)] at hmono
  exact ⟨_, (roundsTo_sample hlow hhigh hab hfinite hi hij hj).exact_of_between hlow hhigh hge hle,
    hge, hle⟩

/-- Exactly when no sample leaves the domain. -/
theorem samples_mem_iff (hlow : rational? low = some a) (hhigh : rational? high = some b)
    (hab : a ≤ b) (hj : 0 < j) (hsteps : steps = j + 2) :
    (∀ i, 0 < i → i < steps - 1 → (sample low high steps i).isFinite = true ∧
        low ≤ sample low high steps i ∧ sample low high steps i ≤ high) ↔
      ((high - low) * countOf j).isFinite = true ∧
        (steps ≤ 2 ^ 51 ∨ sample low high steps j ≤ high) := by
  subst hsteps
  constructor
  · intro h
    obtain ⟨hfinite, -, hle⟩ := h j hj (by omega)
    rw [sample_between hj (by omega)] at hfinite
    exact ⟨isFinite_of_div (isFinite_of_add hfinite), Or.inr hle⟩
  · rintro ⟨hfinite, hbound⟩ i hi hlt
    have hlast : RoundsTo (a + share (j + 2 - 1) (product a b j)) (sample low high (j + 2) j) :=
      roundsTo_sample hlow hhigh hab hfinite hj le_rfl (by omega)
    have hend : nearest (a + share (j + 2 - 1) (product a b j)) ≤ b := by
      rcases hbound with hfew | hle
      · have hshare := share_le hlow hhigh hab (by omega : j < j + 2 - 1) (by omega)
        have hmono := nearest_mono (by linarith : a + share (j + 2 - 1) (product a b j) ≤ b)
        rwa [nearest_of_isNumber (isNumber_of_rational? hhigh)] at hmono
      · have hge : low ≤ sample low high (j + 2) j := (roundsTo_self hlow).mono hlast
          (le_add_of_nonneg_right (share_nonneg (by omega) (product_nonneg hab)))
        obtain ⟨v, hv, -, hvb⟩ := rational?_between hlow hhigh hge hle
        have hexact := hlast.exact_of_isFinite (isFinite_iff_rational?.mpr ⟨v, hv⟩)
        obtain rfl : v = _ := Option.some.inj (hv.symm.trans hexact)
        exact hvb
    obtain ⟨v, hv, hav, hvb⟩ := sample_mem hlow hhigh hab hfinite hi (by omega) (by omega) hend
    exact ⟨isFinite_iff_rational?.mpr ⟨v, hv⟩, (le_iff_exact hlow hv).mpr hav,
      (le_iff_exact hv hhigh).mpr hvb⟩

namespace ScaleMapping
variable {property field : String} {range : ScaleRange Float} {m : ScaleMapping Float}

/-- A row that shows a number of the domain, in its label as in its value. -/
def Shows (m : ScaleMapping Float) (e : LegendEntry) : Prop :=
  ∃ v, e.value = some v ∧ e.label = numberText v ∧ v.isFinite = true ∧ m.low ≤ v ∧ v ≤ m.high

theorem all_shows_iff : (∀ e ∈ scaleEntries m steps, m.Shows e) ↔
    ∀ i < max steps 2, (sample m.low m.high (max steps 2) i).isFinite = true ∧
      m.low ≤ sample m.low m.high (max steps 2) i ∧
      sample m.low m.high (max steps 2) i ≤ m.high := by
  simp only [scaleEntries, List.forall_mem_map, List.mem_range]
  refine forall₂_congr fun i _ => ⟨?_, fun h => ⟨_, rfl, rfl, h⟩⟩
  rintro ⟨v, hvalue, -, hinside⟩
  obtain rfl := Option.some.inj hvalue
  exact hinside

/-- A legend shows samples of the domain alone if and only if the last product before the end is a
number of the machine, apart from numbers of rows that no legend has. -/
theorem legend_inside_iff (hmake : make property field low high range = .ok m) (steps : ℕ) :
    (scaleEntries m steps).length = max steps 2 ∧
      (scaleEntries m steps).head?.bind LegendEntry.value = some m.low ∧
      (scaleEntries m steps).getLast?.bind LegendEntry.value = some m.high ∧
      ((∀ e ∈ scaleEntries m steps, m.Shows e) ↔
        steps ≤ 2 ∨ ((m.high - m.low) * countOf (steps - 2)).isFinite = true ∧
          (steps ≤ 2 ^ 51 ∨ sample m.low m.high steps (steps - 2) ≤ m.high)) := by
  obtain ⟨checked, -, hlow, hhigh, hlt, rfl⟩ := make_eq_ok_iff.mp hmake
  obtain ⟨a, ha⟩ := isFinite_iff_rational?.mp hlow
  obtain ⟨b, hb⟩ := isFinite_iff_rational?.mp hhigh
  have hab : a ≤ b := not_lt.mp (mt (lt_iff_exact hb ha).mpr hlt)
  have hlowMem : low.isFinite = true ∧ low ≤ low ∧ low ≤ high :=
    ⟨hlow, (le_iff_exact ha ha).mpr le_rfl, (le_iff_exact ha hb).mpr hab⟩
  have hhighMem : high.isFinite = true ∧ low ≤ high ∧ high ≤ high :=
    ⟨hhigh, hlowMem.2.2, (le_iff_exact hb hb).mpr le_rfl⟩
  have hrows : max steps 2 ≠ 0 := by omega
  have hatLeast : 2 ≤ max steps 2 := le_max_right steps 2
  refine ⟨by simp [scaleEntries], ?_, ?_, ?_⟩
  · simp [scaleEntries, List.head?_range, hrows, sample_first]
  · simp [scaleEntries, List.getLast?_range, hrows, sample_last low high hatLeast]
  · rw [all_shows_iff]
    dsimp only
    rw [forall_sample_iff (P := fun v => v.isFinite = true ∧ low ≤ v ∧ v ≤ high) hlowMem hhighMem
      hatLeast]
    rcases Nat.lt_or_ge 2 steps with hmany | hfew
    · rw [max_eq_left hmany.le, or_iff_right (by omega : ¬ steps ≤ 2),
        ← samples_mem_iff ha hb hab (by omega : 0 < steps - 2) (by omega)]
    · rw [max_eq_right hfew]
      -- Two rows have no place between them.
      exact iff_of_true (fun i hpos hi => by omega) (Or.inl hfew)

theorem gauge_legend_inside :
    make "width" "load" 0 100 (.numeric 0 10) = .ok (gauge 0 100) ∧
      ∀ e ∈ scaleEntries (gauge 0 100) 5, (gauge 0 100).Shows e := by
  have hmake := @make_gauge 0 100 rfl rfl (by decide)
  have hproduct : (((gauge 0 100).high - (gauge 0 100).low) * countOf (5 - 2)).isFinite = true := by
    decide +kernel
  exact ⟨hmake, (legend_inside_iff hmake 5).2.2.2.mpr (Or.inr ⟨hproduct, Or.inl (by norm_num)⟩)⟩

/-- Twice the width is no number, though half of it is, so the middle of five samples is none. -/
theorem tall_gauge_legend_outside :
    make "width" "load" 0 1e308 (.numeric 0 10) = .ok (gauge 0 1e308) ∧
      ∃ e ∈ scaleEntries (gauge 0 1e308) 5, ∃ v, e.value = some v ∧ v.isFinite = false := by
  have hmake := @make_gauge 0 1e308 (by decide +kernel) (by decide +kernel) (by decide +kernel)
  exact ⟨hmake, _, List.mem_map_of_mem (List.mem_range.mpr (by decide : 2 < max 5 2)), _, rfl,
    by decide +kernel⟩

end ScaleMapping

end Cartouche
