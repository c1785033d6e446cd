import Cartouche.Proofs.Nearest
import Cartouche.Proofs.WholeNumbers

/-!
The exact values of machine numbers. Finite numbers compare as their values do, and the nearest
number of an exact value is a machine number, or else one of the infinities.
-/
namespace Cartouche
open Decimal
open Float.Model (UnpackedFloat)
open Float.Model.UnpackedFloat (Sign unpackSign unpackExponent unpackMantissa)

def signed : Sign → ℚ → ℚ
  | .negative, a => -a
  | .positive, a => a

def unpackedValue? : UnpackedFloat → Option ℚ
  | .zero _ => some 0
  | .finite s significand exponent _ => some (signed s (significand * 2 ^ exponent))
  | _ => none

/-- The value of a finite number; the special numbers have none. -/
def rational? (x : Float) : Option ℚ :=
  unpackedValue? x.toModel.unpack

/-- How a magnitude is kept: the significand is full unless the exponent is the least. -/
structure IsCanonical (m : ℕ) (e : ℤ) : Prop where
  pos : 0 < m
  high : m < 2 ^ 53
  least : -1074 ≤ e
  full : 2 ^ 52 ≤ m ∨ e = -1074

/-- All finite numbers are kept so, and none has a greater exponent. -/
def IsKept : UnpackedFloat → Prop
  | .finite _ m e _ => IsCanonical m e ∧ e ≤ 971
  | _ => True

/-- No finite number is as large as this. -/
def limit : ℚ :=
  2 ^ (1024 : ℤ)

variable {x y z : Float} {a b q r : ℚ} {s : Sign} {m n : ℕ} {e d : ℤ} {u v : UnpackedFloat}

theorem isKept_unpack (x : Float) : IsKept x.toModel.unpack := by
  have h := reads x
  have hfraction := Nat.mod_lt x.toBits.toNat (Nat.two_pow_pos 52)
  generalize x.toBits.toNat % 2 ^ 52 = fraction at h hfraction
  generalize x.toModel.unpack = u at h ⊢
  generalize decode x = d at h
  cases h with
  | least _ hpos => exact ⟨⟨hpos, by omega, le_rfl, Or.inr rfl⟩, by norm_num⟩
  | full hpos hfield hfull =>
    exact ⟨⟨hfull, by omega, by omega, Or.inl (Nat.le_add_right _ _)⟩, by omega⟩
  | _ => trivial

/-! The value is what the word is decoded to, too. -/

theorem signed_zero (s : Sign) : signed s 0 = 0 := by
  cases s with
  | negative => exact neg_zero
  | positive => rfl

theorem decode_of_rational? (hx : rational? x = some a) :
    ∃ negative b, decode x = .finite negative b ∧
      a = signed (signOf negative) (b.significand * 2 ^ b.exponent) := by
  have h := reads x
  rw [rational?] at hx
  generalize x.toModel.unpack = u at h hx
  generalize decode x = d at h ⊢
  cases h with
  | zero _ _ =>
    refine ⟨_, _, rfl, ?_⟩
    rw [Nat.cast_zero, zero_mul, signed_zero]
    exact (Option.some.inj hx).symm
  | least _ _ => exact ⟨_, _, rfl, (Option.some.inj hx).symm⟩
  | full _ _ _ => exact ⟨_, _, rfl, (Option.some.inj hx).symm⟩
  | _ => cases hx

/-! Finite numbers have values of a bounded size, and are compared by them. -/

theorem abs_signed (s : Sign) (a : ℚ) : |signed s a| = |a| := by
  cases s with
  | negative => exact abs_neg a
  | positive => rfl

/-- A number with a value is a zero or has a canonical magnitude. -/
theorem value_cases (hx : rational? x = some a) :
    (∃ s, x.toModel.unpack = .zero s ∧ a = 0) ∨
      ∃ s m e, ∃ h : IsCanonical m e, x.toModel.unpack = .finite s m e h.pos ∧ e ≤ 971 ∧
        a = signed s (m * 2 ^ e) := by
  have hkept := isKept_unpack x
  unfold rational? at hx
  generalize x.toModel.unpack = u at hx hkept
  cases u with
  | notANumber => cases hx
  | infinity s => cases hx
  | zero s => exact Or.inl ⟨s, rfl, (Option.some.inj hx).symm⟩
  | finite s m e hm => exact Or.inr ⟨s, m, e, hkept.1, rfl, hkept.2, (Option.some.inj hx).symm⟩

theorem isNumber_signed (s : Sign) (h : IsCanonical m e) : IsNumber (signed s (m * 2 ^ e)) := by
  have hm : |(m : ℤ)| < 2 ^ 53 := by exact_mod_cast h.high
  cases s with
  | negative => exact ⟨-m, e, by rwa [abs_neg], h.least, by simp [signed]⟩
  | positive => exact ⟨m, e, hm, h.least, by simp [signed]⟩

theorem isNumber_of_rational? (hx : rational? x = some a) : IsNumber a := by
  rcases value_cases hx with ⟨s, -, rfl⟩ | ⟨s, m, e, h, -, -, rfl⟩
  · exact ⟨0, 0, by norm_num, by norm_num, by norm_num⟩
  · exact isNumber_signed s h

theorem limit_pos : 0 < limit :=
  zpow_pos two_pos _

theorem IsCanonical.mul_zpow_pos (h : IsCanonical m e) : (0 : ℚ) < m * 2 ^ e :=
  mul_pos (by exact_mod_cast h.pos) (zpow_pos two_pos e)

theorem IsCanonical.mul_zpow_lt (h : IsCanonical m e) (he : e ≤ d) :
    (m * 2 ^ e : ℚ) < 2 ^ (d + 53) := by
  have hm : (m : ℚ) < 2 ^ 53 := by exact_mod_cast h.high
  calc (m * 2 ^ e : ℚ) < 2 ^ 53 * 2 ^ e := mul_lt_mul_of_pos_right hm (zpow_pos two_pos e)
    _ = 2 ^ (e + 53) := by rw [zpow_add₀ two_ne_zero, mul_comm]; rfl
    _ ≤ 2 ^ (d + 53) := zpow_le_zpow_right₀ one_le_two (by omega)

theorem abs_lt_of_rational? (hx : rational? x = some a) : |a| < limit := by
  rcases value_cases hx with ⟨s, -, rfl⟩ | ⟨s, m, e, h, -, he, rfl⟩
  · rw [abs_zero]
    exact limit_pos
  · rw [abs_signed, abs_of_pos h.mul_zpow_pos]
    exact h.mul_zpow_lt he

/-- A greater exponent outweighs every significand. -/
theorem IsCanonical.lt_of_exponent_lt (h : IsCanonical m e) (h' : IsCanonical n d) (hlt : e < d) :
    (m * 2 ^ e : ℚ) < n * 2 ^ d := by
  have hn : (2 : ℚ) ^ 52 ≤ n := by
    have hfull := h'.full.resolve_right (by have := h.least; omega)
    exact_mod_cast hfull
  calc (m * 2 ^ e : ℚ) < 2 ^ (d - 1 + 53) := h.mul_zpow_lt (by omega)
    _ = 2 ^ 52 * 2 ^ d := by
      rw [show d - 1 + 53 = 52 + d by ring, zpow_add₀ two_ne_zero]
      rfl
    _ ≤ n * 2 ^ d := mul_le_mul_of_nonneg_right hn (zpow_pos two_pos d).le

theorem IsCanonical.lt_of_lex_lt (h : IsCanonical m e) (h' : IsCanonical n d)
    (hlt : e < d ∨ e = d ∧ m < n) : (m * 2 ^ e : ℚ) < n * 2 ^ d := by
  rcases hlt with hlt | ⟨rfl, hlt⟩
  · exact h.lt_of_exponent_lt h' hlt
  · exact mul_lt_mul_of_pos_right (by exact_mod_cast hlt) (zpow_pos two_pos e)

theorem lt_of_rank_lt (hx : rational? x = some a) (hy : rational? y = some b)
    (h : rank x < rank y) : a < b := by
  unfold rank at h
  rcases value_cases hx with ⟨s, hux, rfl⟩ | ⟨s, m, e, hm, hux, -, rfl⟩ <;>
    rcases value_cases hy with ⟨t, huy, rfl⟩ | ⟨t, n, d, hn, huy, -, rfl⟩ <;>
    rw [hux, huy] at h
  · exact absurd h (lt_irrefl _)
  · cases t with
    | negative => simp [unpackedRank, Prod.Lex.toLex_lt_toLex] at h
    | positive => exact hn.mul_zpow_pos
  · cases s with
    | negative => exact neg_neg_of_pos hm.mul_zpow_pos
    | positive => simp [unpackedRank, Prod.Lex.toLex_lt_toLex] at h
  · have hmpos := hm.mul_zpow_pos
    have hnpos := hn.mul_zpow_pos
    cases s <;> cases t <;> simp [unpackedRank, Prod.Lex.toLex_lt_toLex] at h
    · exact neg_lt_neg (hn.lt_of_lex_lt hm (h.imp_right fun h => ⟨h.1.symm, h.2⟩))
    · exact (neg_neg_of_pos hmpos).trans hnpos
    · exact hm.lt_of_lex_lt hn h

theorem eq_of_rank_eq (hx : rational? x = some a) (hy : rational? y = some b)
    (h : rank x = rank y) : a = b := by
  unfold rank at h
  rcases value_cases hx with ⟨s, hux, rfl⟩ | ⟨s, m, e, hm, hux, -, rfl⟩ <;>
    rcases value_cases hy with ⟨t, huy, rfl⟩ | ⟨t, n, d, hn, huy, -, rfl⟩ <;>
    simp only [hux, huy] at h
  · rfl
  · cases t <;> simp [unpackedRank] at h
  · cases s <;> simp [unpackedRank] at h
  · cases s <;> cases t <;> simp [unpackedRank] at h <;> obtain ⟨rfl, rfl⟩ := h <;> rfl

theorem rational?_zero : rational? 0 = some 0 :=
  rfl

theorem isFinite_iff_rational? : x.isFinite = true ↔ ∃ a, rational? x = some a := by
  change x.toModel.unpack.isFinite = true ↔ _
  unfold rational?
  cases x.toModel.unpack <;> simp [UnpackedFloat.isFinite, unpackedValue?]

theorem isNaN_of_rational? (hx : rational? x = some a) : x.isNaN = false :=
  isNaN_eq_false_of_isFinite (isFinite_iff_rational?.mpr ⟨a, hx⟩)

theorem lt_iff_exact (hx : rational? x = some a) (hy : rational? y = some b) : x < y ↔ a < b := by
  rw [lt_iff_rank_lt (isNaN_of_rational? hx) (isNaN_of_rational? hy)]
  refine ⟨lt_of_rank_lt hx hy, fun hab => ?_⟩
  rcases lt_trichotomy (rank x) (rank y) with h | h | h
  · exact h
  · exact absurd (eq_of_rank_eq hx hy h) hab.ne
  · exact absurd (lt_of_rank_lt hy hx h) hab.asymm

theorem le_iff_exact (hx : rational? x = some a) (hy : rational? y = some b) : x ≤ y ↔ a ≤ b := by
  have h := lt_iff_not_le (isNaN_of_rational? hy) (isNaN_of_rational? hx)
  rw [lt_iff_exact hy hx] at h
  rw [← not_lt, h, not_not]

/-! The infinities stand at the ends of the order. -/

theorem unpackedRank_le_infinity (u : UnpackedFloat) :
    unpackedRank u ≤ unpackedRank (.infinity .positive) := by
  rcases u with ⟨_ | _⟩ | _ | _ | ⟨_ | _, m, e, h⟩ <;>
    simp [unpackedRank, Prod.Lex.toLex_le_toLex]

theorem infinity_le_unpackedRank (u : UnpackedFloat) :
    unpackedRank (.infinity .negative) ≤ unpackedRank u := by
  rcases u with ⟨_ | _⟩ | _ | _ | ⟨_ | _, m, e, h⟩ <;>
    simp [unpackedRank, Prod.Lex.toLex_le_toLex]

theorem isNaN_of_infinity (h : x.toModel.unpack = .infinity s) : x.isNaN = false := by
  have hgoal : x.toModel.unpack.isNaN = false := by rw [h]; rfl
  exact hgoal

theorem le_of_infinity_right (hx : x.isNaN = false) (hy : y.toModel.unpack = .infinity .positive) :
    x ≤ y := by
  rw [le_iff_rank_le hx (isNaN_of_infinity hy), rank, rank, hy]
  exact unpackedRank_le_infinity _

theorem le_of_infinity_left (hx : x.toModel.unpack = .infinity .negative) (hy : y.isNaN = false) :
    x ≤ y := by
  rw [le_iff_rank_le (isNaN_of_infinity hx) hy, rank, rank, hx]
  exact infinity_le_unpackedRank _

theorem not_le_of_infinity_left (hx : x.toModel.unpack = .infinity .positive)
    (hy : rational? y = some b) : ¬ x ≤ y := by
  rw [le_iff_rank_le (isNaN_of_infinity hx) (isNaN_of_rational? hy), rank, rank, hx, not_le]
  rcases value_cases hy with ⟨s, huy, -⟩ | ⟨s, m, e, h, huy, -, -⟩ <;> rw [huy] <;> cases s <;>
    simp [unpackedRank, Prod.Lex.toLex_lt_toLex]

theorem not_le_of_infinity_right (hx : rational? x = some a)
    (hy : y.toModel.unpack = .infinity .negative) : ¬ x ≤ y := by
  rw [le_iff_rank_le (isNaN_of_rational? hx) (isNaN_of_infinity hy), rank, rank, hy, not_le]
  rcases value_cases hx with ⟨s, hux, -⟩ | ⟨s, m, e, h, hux, -, -⟩ <;> rw [hux] <;> cases s <;>
    simp [unpackedRank, Prod.Lex.toLex_lt_toLex]

theorem number_cases (hx : x.isNaN = false) :
    (∃ a, rational? x = some a) ∨ ∃ s, x.toModel.unpack = .infinity s := by
  have hx : x.toModel.unpack.isNaN = false := hx
  unfold rational?
  generalize x.toModel.unpack = u at hx ⊢
  cases u with
  | notANumber => cases hx
  | infinity s => exact Or.inr ⟨s, rfl⟩
  | zero s => exact Or.inl ⟨_, rfl⟩
  | finite s m e h => exact Or.inl ⟨_, rfl⟩

/-- What is compared with a finite number on either side is finite. -/
theorem rational?_between (hx : rational? x = some a) (hy : rational? y = some b) (hxz : x ≤ z)
    (hzy : z ≤ y) : ∃ c, rational? z = some c ∧ a ≤ c ∧ c ≤ b := by
  rcases number_cases (isNaN_of_le hxz).2 with ⟨c, hc⟩ | ⟨s, hs⟩
  · exact ⟨c, hc, (le_iff_exact hx hc).mp hxz, (le_iff_exact hc hy).mp hzy⟩
  · cases s with
    | positive => exact absurd hzy (not_le_of_infinity_left hs hy)
    | negative => exact absurd hxz (not_le_of_infinity_right hx hs)

/-- The machine number of an exact value: the nearest number, or an infinity in place of one that
is too large. -/
inductive RoundsTo (q : ℚ) (z : Float) : Prop where
  | within (value : rational? z = some (nearest q))
  | above (infinite : z.toModel.unpack = .infinity .positive) (large : limit ≤ nearest q)
  | below (infinite : z.toModel.unpack = .infinity .negative) (large : nearest q ≤ -limit)

theorem roundsTo_self (hx : rational? x = some a) : RoundsTo a x :=
  .within (by rw [hx, nearest_of_isNumber (isNumber_of_rational? hx)])

namespace RoundsTo

theorem isNaN_eq_false (h : RoundsTo q z) : z.isNaN = false := by
  cases h with
  | within value => exact isNaN_of_rational? value
  | above infinite _ => exact isNaN_of_infinity infinite
  | below infinite _ => exact isNaN_of_infinity infinite

/-- Rounding keeps the order. -/
theorem mono (h : RoundsTo q x) (h' : RoundsTo r y) (hqr : q ≤ r) : x ≤ y := by
  have hle := nearest_mono hqr
  cases h with
  | within value =>
    cases h' with
    | within value' => exact (le_iff_exact value value').mpr hle
    | above infinite' _ => exact le_of_infinity_right (isNaN_of_rational? value) infinite'
    | below _ large' =>
      have hbound := (abs_lt.mp (abs_lt_of_rational? value)).1
      linarith
  | above infinite large =>
    cases h' with
    | within value' =>
      have hbound := (abs_lt.mp (abs_lt_of_rational? value')).2
      linarith
    | above infinite' _ => exact le_of_infinity_right (isNaN_of_infinity infinite) infinite'
    | below _ large' =>
      have hpos := limit_pos
      linarith
  | below infinite _ => exact le_of_infinity_left infinite h'.isNaN_eq_false

theorem exact_of_isFinite (h : RoundsTo q z) (hz : z.isFinite = true) :
    rational? z = some (nearest q) := by
  obtain ⟨a, ha⟩ := isFinite_iff_rational?.mp hz
  unfold rational? at ha
  cases h with
  | within value => exact value
  | above infinite _ =>
    rw [infinite] at ha
    cases ha
  | below infinite _ =>
    rw [infinite] at ha
    cases ha

theorem exact_of_abs_lt (h : RoundsTo q z) (hq : |nearest q| < limit) :
    rational? z = some (nearest q) := by
  have hbounds := abs_lt.mp hq
  cases h with
  | within value => exact value
  | above _ large => linarith
  | below _ large => linarith

theorem exact_of_between (h : RoundsTo q z) (hx : rational? x = some a) (hy : rational? y = some b)
    (hlow : a ≤ nearest q) (hhigh : nearest q ≤ b) : rational? z = some (nearest q) := by
  have hbelow := (abs_lt.mp (abs_lt_of_rational? hx)).1
  have habove := (abs_lt.mp (abs_lt_of_rational? hy)).2
  exact h.exact_of_abs_lt (abs_lt.mpr ⟨by linarith, by linarith⟩)

/-- A value between two numbers does not leave them. -/
theorem between (h : RoundsTo q z) (hx : rational? x = some a) (hy : rational? y = some b)
    (hlow : a ≤ q) (hhigh : q ≤ b) :
    rational? z = some (nearest q) ∧ a ≤ nearest q ∧ nearest q ≤ b := by
  have hle := nearest_mono hlow
  have hge := nearest_mono hhigh
  rw [nearest_of_isNumber (isNumber_of_rational? hx)] at hle
  rw [nearest_of_isNumber (isNumber_of_rational? hy)] at hge
  exact ⟨h.exact_of_between hx hy hle hge, hle, hge⟩

theorem exact_of_le (h : RoundsTo q z) (hy : rational? y = some (nearest r)) (hq : 0 ≤ q)
    (hqr : q ≤ r) : rational? z = some (nearest q) :=
  h.exact_of_between rational?_zero hy (nearest_nonneg hq) (nearest_mono hqr)

end RoundsTo

end Cartouche
