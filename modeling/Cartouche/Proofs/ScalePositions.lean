import Cartouche.Proofs.Arithmetic
import Cartouche.Proofs.Mappings

/-!
Positions on a scale, in the numbers of the machine. Where the width of the domain is a number,
positions keep to what they are between zero and one, and the ends are met; where it is not, the end
of the domain has no position.
-/
namespace Cartouche

/-! What a range has at its ends. -/

namespace ScaleRange
variable {α : Type}

def first : ScaleRange α → Interpolated α
  | .numeric first _ => .number first
  | .color first _ => .color first.text

def last : ScaleRange α → Interpolated α
  | .numeric _ last => .number last
  | .color _ last => .color last.text

variable [Blending α] [Add α] [Sub α] [Mul α] [OfNat α 0] [OfNat α 1] [LT α] [LE α]
  [DecidableLT α] [DecidableLE α] {t : α}

theorem at_of_le_zero (range : ScaleRange α) (h : t ≤ 0) : range.at t = range.first := by
  cases range with
  | numeric first last => exact congrArg Interpolated.number (if_pos h)
  | color first last => exact congrArg Interpolated.color (if_pos h)

theorem at_of_one_le (range : ScaleRange α) (hpos : ¬ t ≤ 0) (h : 1 ≤ t) :
    range.at t = range.last := by
  cases range with
  | numeric first last =>
    exact congrArg Interpolated.number ((if_neg hpos).trans (if_pos h))
  | color first last => exact congrArg Interpolated.color ((if_neg hpos).trans (if_pos h))

end ScaleRange

/-! The values of clamped numbers, widths and positions. -/

section Values
variable {low high x : Float} {a b t : ℚ}

theorem rational?_clamp (hlow : rational? low = some a) (hhigh : rational? high = some b)
    (hab : a ≤ b) (hx : x.isNaN = false) :
    ∃ c, rational? (clamp low high x) = some c ∧ a ≤ c ∧ c ≤ b ∧
      (high ≤ x → c = b) ∧ (x ≤ low → c = a) := by
  have hlowNaN := isNaN_of_rational? hlow
  have hhighNaN := isNaN_of_rational? hhigh
  -- a number beyond both ends is possible only where they are one
  have hmeet : high ≤ x → x ≤ low → a = b := by
    intro hge hle
    obtain ⟨c, -, hbc, hca⟩ := rational?_between hhigh hlow hge hle
    linarith
  unfold clamp
  by_cases hbelow : x < low
  · have hle : x ≤ low := (le_iff_rank_le hx hlowNaN).mpr ((lt_iff_rank_lt hx hlowNaN).mp hbelow).le
    have hend : ¬ high < low := by
      rw [lt_iff_exact hhigh hlow]
      exact hab.not_gt
    simp only [if_pos hbelow, if_neg hend]
    exact ⟨a, hlow, le_rfl, hab, fun hge => hmeet hge hle, fun _ => rfl⟩
  · simp only [if_neg hbelow]
    by_cases habove : high < x
    · have hge : high ≤ x :=
        (le_iff_rank_le hhighNaN hx).mpr ((lt_iff_rank_lt hhighNaN hx).mp habove).le
      rw [if_pos habove]
      exact ⟨b, hhigh, hab, le_rfl, fun _ => rfl, fun hle => (hmeet hge hle).symm⟩
    · rw [if_neg habove]
      rw [lt_iff_not_le hx hlowNaN, not_not] at hbelow
      rw [lt_iff_not_le hhighNaN hx, not_not] at habove
      obtain ⟨c, hc, hac, hcb⟩ := rational?_between hlow hhigh hbelow habove
      refine ⟨c, hc, hac, hcb, fun hge => ?_, fun hle => ?_⟩
      · exact hcb.antisymm ((le_iff_exact hhigh hc).mp hge)
      · exact ((le_iff_exact hc hlow).mp hle).antisymm hac

/-- Two numbers differ by no less than the least number above zero. -/
theorem nearest_sub_pos (hlow : rational? low = some a) (hhigh : rational? high = some b)
    (hab : a < b) : 0 < nearest (b - a) := by
  obtain ⟨k, hk⟩ := (isNumber_of_rational? hhigh).onFinestGrid.sub
    (isNumber_of_rational? hlow).onFinestGrid
  have hunit : (0 : ℚ) < 2 ^ (-1074 : ℤ) := zpow_pos two_pos _
  have hkpos : 1 ≤ k := by
    have hpos : 0 < (k : ℚ) * 2 ^ (-1074 : ℤ) := by
      rw [← hk]
      exact sub_pos.mpr hab
    exact_mod_cast (pos_iff_pos_of_mul_pos hpos).mpr hunit
  have hle : 2 ^ (-1074 : ℤ) ≤ b - a := by
    rw [hk]
    exact le_mul_of_one_le_left hunit.le (by exact_mod_cast hkpos)
  have hleast : nearest (2 ^ (-1074 : ℤ)) = 2 ^ (-1074 : ℤ) :=
    nearest_of_isNumber ⟨1, -1074, by norm_num, le_rfl, by rw [Int.cast_one, one_mul]⟩
  exact hunit.trans_le (hleast.symm.trans_le (nearest_mono hle))

theorem rational?_position (hlow : rational? low = some a) (hhigh : rational? high = some b)
    (hab : a < b) (hwidth : (high - low).isFinite = true) (hx : x.isNaN = false) :
    ∃ t, rational? (position low high x) = some t ∧ 0 ≤ t ∧ t ≤ 1 ∧
      (high ≤ x → t = 1) ∧ (x ≤ low → t = 0) := by
  have hlt := (lt_iff_exact hlow hhigh).mpr hab
  have hpos := nearest_sub_pos hlow hhigh hab
  have hspan := (roundsTo_sub hhigh hlow).exact_of_isFinite hwidth
  obtain ⟨c, hc, hac, hcb, hatHigh, hatLow⟩ := rational?_clamp hlow hhigh hab.le hx
  have hpart : 0 ≤ nearest (c - a) := nearest_nonneg (sub_nonneg.mpr hac)
  have hpartLe : nearest (c - a) ≤ nearest (b - a) := nearest_mono (sub_le_sub_right hcb a)
  have hway := (roundsTo_sub hc hlow).exact_of_le hspan (sub_nonneg.mpr hac)
    (sub_le_sub_right hcb a)
  obtain ⟨ht, hzero, hone⟩ :=
    (roundsTo_div hway hspan hpos.ne').between rational?_zero rational?_one
    (div_nonneg hpart hpos.le) ((div_le_one hpos).mpr hpartLe)
  refine ⟨_, (congrArg rational? (if_pos hlt)).trans ht, hzero, hone, fun hge => ?_, fun hle => ?_⟩
  · rw [hatHigh hge, div_self hpos.ne', nearest_one]
  · rw [hatLow hle, sub_self, nearest_zero, zero_div, nearest_zero]

/-- A width beyond all numbers leaves nothing to divide at the end. -/
theorem isNaN_position_high (hlow : rational? low = some a) (hhigh : rational? high = some b)
    (hab : a < b) (hwidth : (high - low).isFinite = false) :
    (position low high high).isNaN = true := by
  have hlt := (lt_iff_exact hlow hhigh).mpr hab
  have hself : clamp low high high = high := by
    have hnotBelow : ¬ high < low := by
      rw [lt_iff_exact hhigh hlow]
      exact hab.not_gt
    simp only [clamp, if_neg hnotBelow, ite_self]
  have hposition : position low high high = (high - low) / (high - low) := by
    rw [position, if_pos hlt, hself]
  rw [hposition, div_eq_pack]
  rcases number_cases (roundsTo_sub hhigh hlow).isNaN_eq_false with hfinite | ⟨s, hs⟩
  · exact Bool.noConfusion (hwidth.symm.trans (isFinite_iff_rational?.mpr hfinite))
  · rw [hs]
    cases s <;> rfl

/-- What overflows between two numbers is an infinity of one sign, to which the first adds. -/
theorem isNaN_interpolate {first last p : Float} {c d : ℚ} (hfirst : rational? first = some c)
    (hlast : rational? last = some d) (hp : rational? p = some t) :
    (interpolate first last p).isNaN = false := by
  unfold interpolate
  split
  · exact isNaN_of_rational? hfirst
  · next hpos =>
    split
    · exact isNaN_of_rational? hlast
    · have hne : t ≠ 0 := by
        rintro rfl
        exact hpos ((le_iff_exact hp rational?_zero).mpr le_rfl)
      exact isNaN_add hfirst (isNaN_mul hp hne (roundsTo_sub hlast hfirst).isNaN_eq_false)

end Values

namespace ScaleMapping
variable {property field : String} {low high : Float} {range : ScaleRange Float}
  {m : ScaleMapping Float}

/-- A scale that meets its ends and has a position between them for every finite number. -/
structure Sound (m : ScaleMapping Float) : Prop where
  above : ∀ x, m.high ≤ x → m.resolveNumber x = m.range.last.style
  below : ∀ x, x ≤ m.low → m.resolveNumber x = m.range.first.style
  position : ∀ x : Float, x.isFinite →
    (m.position x).isNaN = false ∧ 0 ≤ m.position x ∧ m.position x ≤ 1
  number : ∀ x first last : Float, x.isFinite → m.range = .numeric first last → first.isFinite →
    last.isFinite → ∃ y, m.resolveNumber x = .number y ∧ y.isNaN = false

/-- A scale is sound if and only if its width is a number of the machine. -/
theorem sound_iff_isFinite_width (hmake : make property field low high range = .ok m)
    (hlt : m.low < m.high) : m.Sound ↔ (m.high - m.low).isFinite = true := by
  obtain ⟨checked, -, hlow, hhigh, -, rfl⟩ := make_eq_ok_iff.mp hmake
  dsimp only at hlt ⊢
  obtain ⟨a, ha⟩ := isFinite_iff_rational?.mp hlow
  obtain ⟨b, hb⟩ := isFinite_iff_rational?.mp hhigh
  have hab := (lt_iff_exact ha hb).mp hlt
  constructor
  · intro h
    by_contra hwidth
    have hnan := isNaN_position_high ha hb hab (Bool.eq_false_iff.mpr hwidth)
    exact Bool.noConfusion ((h.position high hhigh).1.symm.trans hnan)
  · intro hwidth
    refine ⟨fun x hx => ?_, fun x hx => ?_, fun x hx => ?_,
      fun x first last hx hrange hfirst hlast => ?_⟩
    · obtain ⟨t, ht, -, -, hone, -⟩ := rational?_position ha hb hab hwidth (isNaN_of_le hx).2
      obtain rfl := hone hx
      refine congrArg Interpolated.style (range.at_of_one_le ?_ ?_)
      · exact mt (le_iff_exact ht rational?_zero).mp (by norm_num)
      · exact (le_iff_exact rational?_one ht).mpr le_rfl
    · obtain ⟨t, ht, -, -, -, hzero⟩ := rational?_position ha hb hab hwidth (isNaN_of_le hx).1
      obtain rfl := hzero hx
      exact congrArg Interpolated.style
        (range.at_of_le_zero ((le_iff_exact ht rational?_zero).mpr le_rfl))
    · obtain ⟨t, ht, hzero, hone, -, -⟩ :=
        rational?_position ha hb hab hwidth (isNaN_eq_false_of_isFinite hx)
      exact ⟨isNaN_of_rational? ht, (le_iff_exact rational?_zero ht).mpr hzero,
        (le_iff_exact ht rational?_one).mpr hone⟩
    · obtain ⟨t, ht, -, -, -, -⟩ :=
        rational?_position ha hb hab hwidth (isNaN_eq_false_of_isFinite hx)
      obtain ⟨c, hc⟩ := isFinite_iff_rational?.mp hfirst
      obtain ⟨d, hd⟩ := isFinite_iff_rational?.mp hlast
      obtain rfl : range = .numeric first last := hrange
      exact ⟨_, rfl, isNaN_interpolate hc hd ht⟩

/-- Loads from one number to another as widths up to ten. -/
def gauge (low high : Float) : ScaleMapping Float :=
  ⟨"width", "load", low, high, .numeric 0 10⟩

theorem make_gauge (hlow : low.isFinite = true) (hhigh : high.isFinite = true)
    (hlt : ¬ high < low) : make "width" "load" low high (.numeric 0 10) = .ok (gauge low high) :=
  make_eq_ok_iff.mpr ⟨"load", rfl, hlow, hhigh, hlt, rfl⟩

theorem gauge_sound : make "width" "load" 0 100 (.numeric 0 10) = .ok (gauge 0 100) ∧
    (0 : Float) < 100 ∧ (gauge 0 100).Sound := by
  have hmake := @make_gauge 0 100 rfl rfl (by decide)
  have hlt : (gauge 0 100).low < (gauge 0 100).high := by decide
  exact ⟨hmake, hlt, (sound_iff_isFinite_width hmake hlt).mpr rfl⟩

/-- Both ends are numbers and their difference is none, so the greatest load has no width. -/
theorem wide_gauge_unsound :
    make "width" "load" (-1e308) 1e308 (.numeric 0 10) = .ok (gauge (-1e308) 1e308) ∧
      (-1e308 : Float) < 1e308 ∧ (1e308 : Float) ≤ 1e308 ∧
      ((gauge (-1e308) 1e308).position 1e308).isNaN = true ∧
      ∃ y, (gauge (-1e308) 1e308).resolveNumber 1e308 = .number y ∧ y.isNaN = true := by
  refine ⟨make_gauge ?_ ?_ ?_, ?_, ?_, ?_, _, rfl, ?_⟩ <;> decide +kernel

end ScaleMapping

end Cartouche
