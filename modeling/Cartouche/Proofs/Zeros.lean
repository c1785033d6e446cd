import Cartouche.Proofs.NumberOrder
import Cartouche.Proofs.Words
import Cartouche.Style.Mapping

/-!
The two zeros. Comparisons do not tell them apart, and differences and quotients tell them apart in
the sign of zero at most, so that no mapping of numbers to styles does.
-/
namespace Cartouche
open Decimal
open Float.Model (UnpackedFloat)
open Float.Model.UnpackedFloat (Sign)

def IsZero (x : Float) : Prop :=
  ∃ s, x.toModel.unpack = .zero s

/-- The same number, up to the sign of zero. -/
def SameUpToSign (x y : Float) : Prop :=
  x = y ∨ IsZero x ∧ IsZero y

/-! All bits of a zero but the first are off. -/

variable {x y : Float}

theorem isZero_iff_toBits :
    IsZero x ↔ x.toBits.toNat / 2 ^ 52 % 2 ^ 11 = 0 ∧ x.toBits.toNat % 2 ^ 52 = 0 := by
  have h := reads x
  rw [IsZero]
  generalize x.toModel.unpack = u at h ⊢
  generalize decode x = d at h
  cases h with
  | zero hfield hfraction => exact iff_of_true ⟨_, rfl⟩ ⟨hfield, hfraction⟩
  | least _ hpos => exact iff_of_false nofun fun h => hpos.ne' h.2
  | full hpos _ _ => exact iff_of_false nofun fun h => hpos.ne' h.1
  | infinite hfield _ =>
    exact iff_of_false nofun fun h => absurd (hfield.symm.trans h.1) (by decide)
  | nan hfield _ => exact iff_of_false nofun fun h => absurd (hfield.symm.trans h.1) (by decide)

theorem isZero_iff_decode :
    IsZero x ↔ ∃ negative b, decode x = .finite negative b ∧ b.significand = 0 := by
  have h := reads x
  rw [IsZero]
  generalize x.toModel.unpack = u at h ⊢
  generalize decode x = d at h ⊢
  cases h with
  | zero _ _ => exact iff_of_true ⟨_, rfl⟩ ⟨_, _, rfl, rfl⟩
  | least _ hpos =>
    refine iff_of_false nofun ?_
    rintro ⟨_, _, ⟨⟩, hb⟩
    exact hpos.ne' hb
  | full _ _ hfull =>
    refine iff_of_false nofun ?_
    rintro ⟨_, _, ⟨⟩, hb⟩
    exact hfull.ne' hb
  | _ => exact iff_of_false nofun nofun

theorem IsZero.rank_eq (h : IsZero x) : rank x = toLex (0, toLex (0, 0)) := by
  obtain ⟨s, hs⟩ := h
  exact congrArg unpackedRank hs

theorem IsZero.isNaN_eq_false (h : IsZero x) : x.isNaN = false := by
  obtain ⟨s, hs⟩ := h
  have hgoal : x.toModel.unpack.isNaN = false := by rw [hs]; rfl
  exact hgoal

instance (x : Float) : Decidable (IsZero x) :=
  decidable_of_iff _ isZero_iff_toBits.symm

theorem isZero_zero : IsZero 0 := by
  decide

theorem isZero_of_pack {s : Sign} (h : x = .ofModel (.pack (.zero s))) : IsZero x := by
  subst h
  cases s <;> decide

/-- A number that equals zero is one of the two. -/
theorem beq_zero_iff (x : Float) : (x == 0) = true ↔ IsZero x := by
  constructor
  · intro h
    have h : (x.toModel.unpack.compare (.zero .positive) == some .eq) = true := h
    cases hx : x.toModel.unpack with
    | zero s => exact ⟨s, hx⟩
    | notANumber =>
      rw [hx] at h
      cases h
    | infinity s =>
      rw [hx] at h
      cases s <;> cases h
    | finite s m e hm =>
      rw [hx] at h
      cases s <;> cases h
  · intro h
    rw [beq_iff_rank_eq h.isNaN_eq_false isZero_zero.isNaN_eq_false, h.rank_eq, isZero_zero.rank_eq]

/-! Arithmetic is done on the unpacked numbers. -/

theorem add_eq_pack (x y : Float) :
    x + y = .ofModel (.pack (.add .binary64 x.toModel.unpack y.toModel.unpack)) := rfl

theorem sub_eq_pack (x y : Float) :
    x - y = .ofModel (.pack (.sub .binary64 x.toModel.unpack y.toModel.unpack)) := rfl

theorem mul_eq_pack (x y : Float) :
    x * y = .ofModel (.pack (.mul .binary64 x.toModel.unpack y.toModel.unpack)) := rfl

theorem div_eq_pack (x y : Float) :
    x / y = .ofModel (.pack (.div .binary64 x.toModel.unpack y.toModel.unpack)) := rfl

/-! Comparisons and arithmetic. -/

theorem IsZero.le (hx : IsZero x) (hy : IsZero y) : x ≤ y := by
  rw [le_iff_rank_le hx.isNaN_eq_false hy.isNaN_eq_false, hx.rank_eq, hy.rank_eq]

namespace SameUpToSign

theorem compare_eq (h : SameUpToSign x y) (u : UnpackedFloat) :
    x.toModel.unpack.compare u = y.toModel.unpack.compare u ∧
      u.compare x.toModel.unpack = u.compare y.toModel.unpack := by
  rcases h with rfl | ⟨⟨s, hs⟩, ⟨s', hs'⟩⟩
  · exact ⟨rfl, rfl⟩
  · rw [hs, hs']
    cases u with
    | infinity t => cases t <;> exact ⟨rfl, rfl⟩
    | finite t m e hm => cases t <;> exact ⟨rfl, rfl⟩
    | _ => exact ⟨rfl, rfl⟩

theorem lt_left (h : SameUpToSign x y) (z : Float) : x < z ↔ y < z := by
  rw [lt_iff_compare, lt_iff_compare, (h.compare_eq _).1]

theorem lt_right (h : SameUpToSign x y) (z : Float) : z < x ↔ z < y := by
  rw [lt_iff_compare, lt_iff_compare, (h.compare_eq _).2]

theorem le_right (h : SameUpToSign x y) (z : Float) : z ≤ x ↔ z ≤ y := by
  rw [le_iff_compare, le_iff_compare, (h.compare_eq _).2]

theorem sub (h : SameUpToSign x y) (z : Float) : SameUpToSign (x - z) (y - z) := by
  rcases h with rfl | ⟨⟨s, hs⟩, ⟨s', hs'⟩⟩
  · exact Or.inl rfl
  · cases hz : z.toModel.unpack with
    | zero t =>
      right
      have hzero : ∀ (w : Float) (r : Sign), w.toModel.unpack = .zero r → IsZero (w - z) := by
        intro w r hr
        have hw : w - z = .ofModel (.pack (if r == -t then .zero r else .zero .positive)) := by
          rw [sub_eq_pack, hr, hz]
          rfl
        split at hw <;> exact isZero_of_pack hw
      exact ⟨hzero x s hs, hzero y s' hs'⟩
    | _ =>
      left
      rw [sub_eq_pack, sub_eq_pack, hs, hs', hz]
      rfl

theorem div (h : SameUpToSign x y) (z : Float) : SameUpToSign (x / z) (y / z) := by
  rcases h with rfl | ⟨⟨s, hs⟩, ⟨s', hs'⟩⟩
  · exact Or.inl rfl
  · have hzeros : ∀ t : Sign,
        (∀ r, UnpackedFloat.div .binary64 (.zero r) z.toModel.unpack = .zero (r / t)) →
        IsZero (x / z) ∧ IsZero (y / z) := by
      intro t ht
      have hx : x / z = .ofModel (.pack (.zero (s / t))) := by rw [div_eq_pack, hs, ht]
      have hy : y / z = .ofModel (.pack (.zero (s' / t))) := by rw [div_eq_pack, hs', ht]
      exact ⟨isZero_of_pack hx, isZero_of_pack hy⟩
    cases hz : z.toModel.unpack with
    | infinity t =>
      right
      exact hzeros t fun r => by rw [hz]; rfl
    | finite t m e hm =>
      right
      exact hzeros t fun r => by rw [hz]; rfl
    | _ =>
      left
      rw [div_eq_pack, div_eq_pack, hs, hs', hz]
      rfl

theorem clamp (h : SameUpToSign x y) (low high : Float) :
    SameUpToSign (clamp low high x) (clamp low high y) := by
  have hraised : SameUpToSign (if x < low then low else x) (if y < low then low else y) := by
    by_cases hl : x < low
    · rw [if_pos hl, if_pos ((h.lt_left low).mp hl)]
      exact Or.inl rfl
    · rw [if_neg hl, if_neg fun hl' => hl ((h.lt_left low).mpr hl')]
      exact h
  unfold Cartouche.clamp
  dsimp only
  by_cases hh : high < if x < low then low else x
  · rw [if_pos hh, if_pos ((hraised.lt_right high).mp hh)]
    exact Or.inl rfl
  · rw [if_neg hh, if_neg fun hh' => hh ((hraised.lt_right high).mpr hh')]
    exact hraised

theorem position (h : SameUpToSign x y) (low high : Float) :
    SameUpToSign (position low high x) (position low high y) := by
  unfold Cartouche.position
  split
  · exact ((h.clamp low high).sub low).div (high - low)
  · exact Or.inl rfl

/-- Both zeros stand for the first end of a range. -/
theorem range_at (h : SameUpToSign x y) (range : ScaleRange Float) : range.at x = range.at y := by
  rcases h with rfl | ⟨hx, hy⟩
  · rfl
  · have hx := hx.le isZero_zero
    have hy := hy.le isZero_zero
    cases range with
    | numeric first last => simp only [ScaleRange.at, interpolate, if_pos hx, if_pos hy]
    | color first last => simp only [ScaleRange.at, interpolateColor, if_pos hx, if_pos hy]

theorem scaled (h : SameUpToSign x y) (m : ScaleMapping Float) :
    m.resolveNumber x = m.resolveNumber y :=
  congrArg Interpolated.style ((h.position m.low m.high).range_at m.range)

theorem graded (h : SameUpToSign x y) (m : ThresholdMapping) :
    m.resolveNumber x = m.resolveNumber y := by
  have hreached : (fun b : Breakpoint => decide (b.value ≤ x)) =
      fun b : Breakpoint => decide (b.value ≤ y) :=
    funext fun b => decide_eq_decide.mpr (h.le_right b.value)
  rw [ThresholdMapping.resolveNumber, ThresholdMapping.resolveNumber, hreached]

end SameUpToSign

end Cartouche
