import Cartouche.Proofs.ColorTexts
import Cartouche.Proofs.ScalePositions
import Cartouche.Proofs.Thresholds

/-!
Scales in exact arithmetic. The rules of a scale are read in rationals, where the ends of the domain
and of the range are the values of the numbers they are written as: positions, numbers and channels
then move from the first end to the last one and never back.
-/
namespace Cartouche
open Decimal Text

/-- Channels are blended in rationals and rounded as they are in numbers of the machine. -/
instance : Blending ℚ where
  ofChannel c := c.toNat
  toChannel x := .ofNat (min 255 ⌊x + 1 / 2⌋₊)

def exactValue (x : Float) : ℚ :=
  (rational? x).getD 0

def ScaleRange.exact : ScaleRange Float → ScaleRange ℚ
  | .numeric first last => .numeric (exactValue first) (exactValue last)
  | .color first last => .color first last

def ScaleMapping.exact (m : ScaleMapping Float) : ScaleMapping ℚ :=
  ⟨m.property, m.field, exactValue m.low, exactValue m.high, m.range.exact⟩

/-! Numbers of the machine become the same channels as their values. -/

theorem quotient_eq (b : Binary) :
    (b.quotient.1 / b.quotient.2 : ℚ) = b.significand * 2 ^ b.exponent := by
  unfold Binary.quotient
  split
  · next h =>
    have hpow : (2 : ℚ) ^ b.exponent = 2 ^ b.exponent.toNat := by
      rw [← zpow_natCast, Int.toNat_of_nonneg h]
    simp [hpow]
  · next h =>
    have hpow : (2 : ℚ) ^ b.exponent = (2 ^ (-b.exponent).toNat)⁻¹ := by
      rw [← zpow_natCast, Int.toNat_of_nonneg (by omega), zpow_neg, inv_inv]
    simp [hpow, div_eq_mul_inv]

theorem floor_add_half (b : Binary) :
    ⌊(b.significand * 2 ^ b.exponent + 1 / 2 : ℚ)⌋₊ = b.rounded := by
  have hpos : (b.quotient.2 : ℚ) ≠ 0 := by
    unfold Binary.quotient
    split <;> simp
  have hsum : (b.quotient.1 / b.quotient.2 + 1 / 2 : ℚ) =
      (2 * b.quotient.1 + b.quotient.2 : ℕ) / (2 * b.quotient.2 : ℕ) := by
    push_cast
    field_simp
  rw [← quotient_eq, hsum, Nat.floor_div_eq_div, Binary.rounded]

/-- Channels are blended in rationals as they are in numbers of the machine. -/
structure KeepsChannels : Prop where
  ofChannel : ∀ c : UInt8, rational? (Blending.ofChannel c) = some (Blending.ofChannel c)
  toChannel : ∀ x a, rational? x = some a → Blending.toChannel x = Blending.toChannel a

theorem toChannel_eq {x : Float} {a : ℚ} (hx : rational? x = some a) :
    Blending.toChannel x = Blending.toChannel a := by
  obtain ⟨negative, b, hdecode, rfl⟩ := decode_of_rational? hx
  have hchannel : (Decoded.finite negative b).clampRounded 255 =
      min 255 ⌊signed (signOf negative) (b.significand * 2 ^ b.exponent) + 1 / 2⌋₊ := by
    cases negative with
    | false => exact congrArg (min 255) (floor_add_half b).symm
    | true =>
      have hvalue : (0 : ℚ) ≤ b.significand * 2 ^ b.exponent :=
        mul_nonneg (Nat.cast_nonneg _) (zpow_pos two_pos _).le
      have hfloor : ⌊-(b.significand * 2 ^ b.exponent : ℚ) + 1 / 2⌋₊ = 0 :=
        Nat.floor_eq_zero.mpr (by linarith)
      exact (congrArg (min 255) hfloor).symm
  rw [← hdecode] at hchannel
  exact congrArg UInt8.ofNat hchannel

theorem keepsChannels : KeepsChannels where
  ofChannel c := rational?_ofNat (c.toNat_lt.trans (by norm_num))
  toChannel _ _ := toChannel_eq

/-! Positions. -/

section Positions
variable {low high x y : ℚ}

theorem clamp_eq_min_max (low high x : ℚ) : clamp low high x = min high (max low x) := by
  have hraised : (if x < low then low else x) = max low x := by
    rcases lt_or_ge x low with h | h
    · rw [if_pos h, max_eq_left h.le]
    · rw [if_neg h.not_gt, max_eq_right h]
  unfold clamp
  rw [hraised]
  rcases lt_or_ge high (max low x) with h | h
  · rw [if_pos h, min_eq_left h.le]
  · rw [if_neg h.not_gt, min_eq_right h]

theorem position_eq (h : low < high) :
    position low high x = (min high (max low x) - low) / (high - low) := by
  rw [position, if_pos h, clamp_eq_min_max]

theorem position_of_point (h : ¬ low < high) : position low high x = 0 :=
  if_neg h

theorem position_of_le (hx : x ≤ low) : position low high x = 0 := by
  by_cases h : low < high
  · rw [position_eq h, max_eq_left hx, min_eq_right h.le, sub_self, zero_div]
  · exact position_of_point h

theorem position_of_ge (h : low < high) (hx : high ≤ x) : position low high x = 1 := by
  rw [position_eq h, max_eq_right (h.le.trans hx), min_eq_left hx,
    div_self (sub_pos.mpr h).ne']

theorem position_mono (hxy : x ≤ y) : position low high x ≤ position low high y := by
  by_cases h : low < high
  · rw [position_eq h, position_eq h]
    have hclamped := min_le_min_left high (max_le_max_left low hxy)
    exact div_le_div_of_nonneg_right (sub_le_sub_right hclamped low) (sub_pos.mpr h).le
  · rw [position_of_point h, position_of_point h]

theorem position_nonneg (low high x : ℚ) : 0 ≤ position low high x := by
  have hmono := @position_mono low high _ _ (min_le_right low x)
  rwa [position_of_le (min_le_left low x)] at hmono

theorem position_le_one (low high x : ℚ) : position low high x ≤ 1 := by
  by_cases h : low < high
  · have hmono := @position_mono low high _ _ (le_max_right high x)
    rwa [position_of_ge h (le_max_left high x)] at hmono
  · rw [position_of_point h]
    exact zero_le_one

theorem position_inside (hlow : low < x) (hhigh : x < high) :
    0 < position low high x ∧ position low high x < 1 := by
  have h := hlow.trans hhigh
  have hpos := sub_pos.mpr h
  rw [position_eq h, max_eq_right hlow.le, min_eq_right hhigh.le]
  exact ⟨div_pos (sub_pos.mpr hlow) hpos, (div_lt_one hpos).mpr (sub_lt_sub_right hhigh low)⟩

end Positions

/-! The way between two ends. -/

/-- On the way from the first end to the last, with the first number no later than the second. -/
def OnWay {α : Type} [LE α] (first last a b : α) : Prop :=
  first ≤ a ∧ a ≤ b ∧ b ≤ last ∨ last ≤ b ∧ b ≤ a ∧ a ≤ first

section Way
variable {s t c d : ℚ}

theorem onWay_line (hs : 0 ≤ s) (hst : s ≤ t) (ht : t ≤ 1) :
    OnWay c d (c + s * (d - c)) (c + t * (d - c)) := by
  rcases le_total c d with h | h
  · left
    have hcd := sub_nonneg.mpr h
    have hstart := mul_nonneg hs hcd
    have hstep := mul_le_mul_of_nonneg_right hst hcd
    have hend := mul_le_mul_of_nonneg_right ht hcd
    exact ⟨by linarith, by linarith, by linarith⟩
  · right
    have hcd := sub_nonpos.mpr h
    have hstart := mul_nonpos_of_nonneg_of_nonpos hs hcd
    have hstep := mul_le_mul_of_nonpos_right hst hcd
    have hend := mul_le_mul_of_nonpos_right ht hcd
    exact ⟨by linarith, by linarith, by linarith⟩

theorem OnWay.map {α β : Type} [LE α] [LE β] {f : α → β} (hf : ∀ {x y}, x ≤ y → f x ≤ f y)
    {first last a b : α} (h : OnWay first last a b) : OnWay (f first) (f last) (f a) (f b) :=
  h.imp (fun ⟨ha, hab, hb⟩ => ⟨hf ha, hf hab, hf hb⟩) fun ⟨ha, hab, hb⟩ => ⟨hf ha, hf hab, hf hb⟩

/-- The ends are those of the line between them. -/
theorem interpolate_eq (ht0 : 0 ≤ t) (ht1 : t ≤ 1) : interpolate c d t = c + t * (d - c) := by
  unfold interpolate
  split
  · next h => rw [le_antisymm h ht0, zero_mul, add_zero]
  · split
    · next h => rw [le_antisymm ht1 h, one_mul, add_sub_cancel]
    · rfl

end Way

/-! Channels and colours. -/

namespace Rgb
variable {a b : Rgb} {s t : ℚ}

theorem toNat_toChannel (x : ℚ) : (Blending.toChannel x).toNat = min 255 ⌊x + 1 / 2⌋₊ :=
  UInt8.toNat_ofNat_of_lt' ((min_le_left _ _).trans_lt (by norm_num))

theorem toChannel_mono {x y : ℚ} (h : x ≤ y) : Blending.toChannel x ≤ Blending.toChannel y := by
  rw [UInt8.le_iff_toNat_le, toNat_toChannel, toNat_toChannel]
  exact min_le_min_left 255 (Nat.floor_mono (by linarith))

theorem toChannel_ofChannel (c : UInt8) : Blending.toChannel (Blending.ofChannel c : ℚ) = c := by
  have hlt := c.toNat_lt
  have hfloor : ⌊(Blending.ofChannel c + 1 / 2 : ℚ)⌋₊ = c.toNat := by
    change ⌊(c.toNat + 1 / 2 : ℚ)⌋₊ = c.toNat
    rw [Nat.floor_eq_iff (by positivity)]
    constructor <;> linarith
  apply UInt8.toNat_inj.mp
  rw [toNat_toChannel, hfloor]
  omega

theorem mixChannel_zero (c d : UInt8) : mixChannel c d (0 : ℚ) = c := by
  rw [mixChannel, zero_mul, add_zero, toChannel_ofChannel]

theorem mixChannel_one (c d : UInt8) : mixChannel c d (1 : ℚ) = d := by
  rw [mixChannel, one_mul, add_sub_cancel, toChannel_ofChannel]

theorem onWay_mixChannel (c d : UInt8) (hs : 0 ≤ s) (hst : s ≤ t) (ht : t ≤ 1) :
    OnWay c d (mixChannel c d s) (mixChannel c d t) := by
  have hline : OnWay (Blending.ofChannel c : ℚ) (Blending.ofChannel d) _ _ := onWay_line hs hst ht
  have hway := hline.map toChannel_mono
  rwa [toChannel_ofChannel, toChannel_ofChannel] at hway

/-- Each channel is on its way. -/
structure OnWay (first last a b : Rgb) : Prop where
  red : Cartouche.OnWay first.red last.red a.red b.red
  green : Cartouche.OnWay first.green last.green a.green b.green
  blue : Cartouche.OnWay first.blue last.blue a.blue b.blue

theorem mix_eq (ht0 : 0 ≤ t) (ht1 : t ≤ 1) : mix a b t =
    ⟨mixChannel a.red b.red t, mixChannel a.green b.green t, mixChannel a.blue b.blue t⟩ := by
  rw [mix, clamp_eq_min_max, max_eq_right ht0, min_eq_right ht1]

theorem onWay_mix (hs : 0 ≤ s) (hst : s ≤ t) (ht : t ≤ 1) : OnWay a b (mix a b s) (mix a b t) := by
  rw [mix_eq hs (hst.trans ht), mix_eq (hs.trans hst) ht]
  exact ⟨onWay_mixChannel _ _ hs hst ht, onWay_mixChannel _ _ hs hst ht,
    onWay_mixChannel _ _ hs hst ht⟩

end Rgb

/-- The text of a blend is read as the blend, at the ends as between them. -/
theorem parse?_interpolateColor {first last : ColorStop} {t : ℚ}
    (hfirst : Rgb.parse? first.text = some first.color)
    (hlast : Rgb.parse? last.text = some last.color) (ht0 : 0 ≤ t) (ht1 : t ≤ 1) :
    Rgb.parse? (interpolateColor first last t) = some (first.color.mix last.color t) := by
  unfold interpolateColor
  split
  · next h =>
    obtain rfl : t = 0 := le_antisymm h ht0
    rw [hfirst, Rgb.mix_eq le_rfl zero_le_one]
    simp only [Rgb.mixChannel_zero]
  · split
    · next h =>
      obtain rfl : t = 1 := le_antisymm ht1 h
      rw [hlast, Rgb.mix_eq zero_le_one le_rfl]
      simp only [Rgb.mixChannel_one]
    · exact Rgb.parse?_toHex _

/-! Scales from one input to a later one. -/

namespace ScaleMapping
variable {m : ScaleMapping ℚ}

/-- A scale that moves from its first end to its last one and never back. -/
structure Steady (m : ScaleMapping ℚ) : Prop where
  position : ∀ x y, x ≤ y →
    0 ≤ m.position x ∧ m.position x ≤ m.position y ∧ m.position y ≤ 1
  number : ∀ first last, m.range = .numeric first last → ∀ x y, x ≤ y →
    ∃ u v, m.interpolated x = .number u ∧ m.interpolated y = .number v ∧ OnWay first last u v
  color : ∀ first last, m.range = .color first last → ∀ x y, x ≤ y →
    ∃ s t c d, m.interpolated x = .color s ∧ m.interpolated y = .color t ∧
      Rgb.parse? s = some c ∧ Rgb.parse? t = some d ∧ Rgb.OnWay first.color last.color c d
  ends : m.low < m.high → ∀ x, (x ≤ m.low → m.interpolated x = m.range.first) ∧
    (m.high ≤ x → m.interpolated x = m.range.last)
  inside : ∀ first last, m.range = .color first last → ∀ x, m.low < x → x < m.high →
    ∃ text, m.interpolated x = .color text ∧ IsHexColor text
  point : m.low = m.high → ∀ x, m.interpolated x = m.range.first

theorem position_mem (m : ScaleMapping ℚ) (x : ℚ) : 0 ≤ m.position x ∧ m.position x ≤ 1 :=
  ⟨position_nonneg _ _ _, position_le_one _ _ _⟩

theorem steady_of_colors (h : ∀ first last, m.range = .color first last →
    Rgb.parse? first.text = some first.color ∧ Rgb.parse? last.text = some last.color) :
    m.Steady where
  position x y hxy := ⟨(m.position_mem x).1, position_mono hxy, (m.position_mem y).2⟩
  number first last hrange x y hxy := by
    obtain ⟨hx0, hx1⟩ := m.position_mem x
    obtain ⟨hy0, hy1⟩ := m.position_mem y
    refine ⟨_, _, congrArg (·.at (m.position x)) hrange, congrArg (·.at (m.position y)) hrange, ?_⟩
    rw [interpolate_eq hx0 hx1, interpolate_eq hy0 hy1]
    exact onWay_line hx0 (position_mono hxy) hy1
  color first last hrange x y hxy := by
    obtain ⟨hx0, hx1⟩ := m.position_mem x
    obtain ⟨hy0, hy1⟩ := m.position_mem y
    obtain ⟨hfirst, hlast⟩ := h first last hrange
    exact ⟨_, _, _, _, congrArg (·.at (m.position x)) hrange,
      congrArg (·.at (m.position y)) hrange, parse?_interpolateColor hfirst hlast hx0 hx1,
      parse?_interpolateColor hfirst hlast hy0 hy1, Rgb.onWay_mix hx0 (position_mono hxy) hy1⟩
  ends hlt x := by
    constructor
    · intro hx
      exact m.range.at_of_le_zero (position_of_le hx).le
    · intro hx
      have hone : m.position x = 1 := position_of_ge hlt hx
      exact m.range.at_of_one_le (by rw [hone]; norm_num) hone.ge
  inside first last hrange x hlow hhigh := by
    obtain ⟨hpos, hlt⟩ := position_inside hlow hhigh
    refine ⟨_, congrArg (·.at (m.position x)) hrange, ?_⟩
    have hblend : interpolateColor first last (m.position x) =
        (first.color.mix last.color (m.position x)).toHex :=
      (if_neg hpos.not_ge).trans (if_neg hlt.not_ge)
    rw [hblend]
    exact Rgb.isHexColor_toHex _
  point hpoint x :=
    m.range.at_of_le_zero (position_of_point (by rw [hpoint]; exact lt_irrefl _)).le

variable {property field a b : String} {low high : Float} {range : ScaleRange Float}
  {n : ScaleMapping Float}

theorem rational?_exactValue {x : Float} (hx : x.isFinite = true) :
    rational? x = some (exactValue x) := by
  obtain ⟨a, ha⟩ := isFinite_iff_rational?.mp hx
  rw [exactValue, ha]
  rfl

/-- A range is made of two finite numbers, or else of two colours. -/
theorem range_of_parse? (h : ScaleRange.parse? a b = some range) :
    (∃ first last, range = .numeric first last ∧ first.isFinite = true ∧ last.isFinite = true) ∨
      ∃ first last, range = .color first last ∧ ColorStop.parse? a = some first ∧
        ColorStop.parse? b = some last := by
  unfold ScaleRange.parse? at h
  split at h
  · next first last hfirst hlast =>
    exact Or.inl ⟨first, last, (Option.some.inj h).symm, isFinite_of_finiteNumber? hfirst,
      isFinite_of_finiteNumber? hlast⟩
  · split at h
    · next first last hfirst hlast =>
      exact Or.inr ⟨first, last, (Option.some.inj h).symm, hfirst, hlast⟩
    · cases h

/-- The ends that an exact scale has are those that the scale was written with. -/
structure KeepsEnds (n : ScaleMapping Float) (a b : String) : Prop where
  low : rational? n.low = some n.exact.low
  high : rational? n.high = some n.exact.high
  number : ∀ first last, n.range = .numeric first last → ∃ c d, rational? first = some c ∧
    rational? last = some d ∧ n.exact.range = .numeric c d
  color : ∀ first last, n.range = .color first last →
    n.exact.range = .color first last ∧ first.text = trimmed a ∧ last.text = trimmed b

/-- Every scale that is made of a written range is steady in exact arithmetic, which takes the ends
as they were written and channels as the machine does. -/
theorem exact_steady (hrange : ScaleRange.parse? a b = some range)
    (hmake : make property field low high range = .ok n) :
    KeepsChannels ∧ n.KeepsEnds a b ∧ n.exact.Steady := by
  obtain ⟨checked, -, hlow, hhigh, -, rfl⟩ := make_eq_ok_iff.mp hmake
  refine ⟨keepsChannels, ?_⟩
  rcases range_of_parse? hrange with ⟨first, last, rfl, hfirst, hlast⟩ |
    ⟨first, last, rfl, hfirst, hlast⟩
  · refine ⟨⟨rational?_exactValue hlow, rational?_exactValue hhigh, ?_, nofun⟩,
      steady_of_colors nofun⟩
    rintro _ _ ⟨⟩
    exact ⟨_, _, rational?_exactValue hfirst, rational?_exactValue hlast, rfl⟩
  · obtain ⟨hfirstColor, hfirstText⟩ := ColorStop.parse?_text hfirst
    obtain ⟨hlastColor, hlastText⟩ := ColorStop.parse?_text hlast
    refine ⟨⟨rational?_exactValue hlow, rational?_exactValue hhigh, nofun, ?_⟩,
      steady_of_colors ?_⟩
    · rintro _ _ ⟨⟩
      exact ⟨rfl, hfirstText, hlastText⟩
    · rintro _ _ ⟨⟩
      exact ⟨hfirstColor, hlastColor⟩

/-- Loads from blue to red. -/
def heat : ScaleMapping Float :=
  ⟨"fill", "load", 0, 100, .color ⟨⟨0, 0, 255⟩, "#00f"⟩ ⟨⟨255, 0, 0⟩, "#F00"⟩⟩

theorem heat_steady : ScaleRange.parse? " #00f" "#F00" = some heat.range ∧
    make "fill" "load" 0 100 heat.range = .ok heat ∧
    heat.KeepsEnds " #00f" "#F00" ∧ heat.exact.Steady := by
  have hrange : ScaleRange.parse? " #00f" "#F00" = some heat.range := rfl
  have hmake : make "fill" "load" 0 100 heat.range = .ok heat := rfl
  exact ⟨hrange, hmake, (exact_steady hrange hmake).2⟩

end ScaleMapping

end Cartouche
