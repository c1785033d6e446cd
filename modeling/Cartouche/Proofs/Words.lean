import Cartouche.Decimal.Binary
import Mathlib

/-!
The words of machine numbers. The machine unpacks them and texts are made of what they are decoded
to; both readings are told by the sign, the exponent field and the fraction.
-/
namespace Cartouche
open Decimal
open Float.Model (UnpackedFloat)
open Float.Model.UnpackedFloat (Sign unpackSign unpackExponent unpackMantissa)

theorem toNat_unpackSign (bits : UInt64) :
    (@unpackSign .binary64 bits.toBitVec).toNat = bits.toNat / 2 ^ 63 % 2 := by
  simp [unpackSign, Nat.shiftRight_eq_div_pow]

theorem toNat_unpackExponent (bits : UInt64) :
    (@unpackExponent .binary64 bits.toBitVec).toNat = bits.toNat / 2 ^ 52 % 2 ^ 11 := by
  simp [unpackExponent, Nat.shiftRight_eq_div_pow]

theorem toNat_unpackMantissa (bits : UInt64) :
    (@unpackMantissa .binary64 bits.toBitVec).toNat = bits.toNat % 2 ^ 52 := by
  simp [unpackMantissa]

theorem toNat_leadingOne (v : BitVec 52) : (1#1 ++ v).toNat = 2 ^ 52 + v.toNat := by
  rw [BitVec.toNat_append, ← Nat.shiftLeft_add_eq_or_of_lt v.isLt]
  rfl

def signOf (negative : Bool) : Sign :=
  if negative then .negative else .positive

theorem ofBitVec_eq_signOf (v : BitVec 1) : Sign.ofBitVec v = signOf (v.toNat == 1) := by
  rcases BitVec.eq_zero_or_eq_one v with rfl | rfl <;> rfl

/-- Both readings of a word with the given parts, by the kind of number that it is. -/
inductive Reads (negative : Bool) (field fraction : Nat) : UnpackedFloat → Decoded → Prop
  | infinite (hfield : field = 2047) (hfraction : fraction = 0) :
    Reads negative field fraction (.infinity (signOf negative)) (.infinite negative)
  | nan (hfield : field = 2047) (hfraction : fraction ≠ 0) :
    Reads negative field fraction .notANumber .nan
  | zero (hfield : field = 0) (hfraction : fraction = 0) :
    Reads negative field fraction (.zero (signOf negative)) (.finite negative ⟨0, -1074, false⟩)
  | least (hfield : field = 0) (hpos : 0 < fraction) :
    Reads negative field fraction (.finite (signOf negative) fraction (-1074) hpos)
      (.finite negative ⟨fraction, -1074, false⟩)
  | full (hpos : 0 < field) (hfield : field < 2047) (hfull : 0 < 2 ^ 52 + fraction) :
    Reads negative field fraction
      (.finite (signOf negative) (2 ^ 52 + fraction) (field - 1075) hfull)
      (.finite negative ⟨2 ^ 52 + fraction, field - 1075, fraction == 0 && 1 < field⟩)

theorem reads (x : Float) :
    Reads (x.toBits.toNat / 2 ^ 63 % 2 == 1) (x.toBits.toNat / 2 ^ 52 % 2 ^ 11)
      (x.toBits.toNat % 2 ^ 52) x.toModel.unpack (decode x) := by
  have hunpack : x.toModel.unpack = UnpackedFloat.unpack .binary64 x.toBits.toBitVec := rfl
  have hdecode : decode x = .ofBits 52 11 x.toBits.toNat := rfl
  have hbias : (Float.Model.Format.binary64.exponentBias : Int) = 1023 := rfl
  have hsign := ofBitVec_eq_signOf (@unpackSign .binary64 x.toBits.toBitVec)
  rw [toNat_unpackSign] at hsign
  have hexponent (v : BitVec 11) : @unpackExponent .binary64 x.toBits.toBitVec = v ↔
      x.toBits.toNat / 2 ^ 52 % 2 ^ 11 = v.toNat := by
    rw [← BitVec.toNat_inj, toNat_unpackExponent]
  have hmantissa : @unpackMantissa .binary64 x.toBits.toBitVec = 0#52 ↔
      x.toBits.toNat % 2 ^ 52 = 0 := by
    rw [← BitVec.toNat_inj, toNat_unpackMantissa]
    rfl
  have hones : (-1#11).toNat = 2 ^ 11 - 1 := rfl
  have hzeros : (0#11).toNat = 0 := rfl
  have hbound := Nat.mod_lt (x.toBits.toNat / 2 ^ 52) (Nat.two_pow_pos 11)
  rw [hunpack, hdecode, Decoded.ofBits, UnpackedFloat.unpack]
  simp only [Nat.pow_eq, hsign, hexponent, hmantissa, toNat_unpackExponent, toNat_unpackMantissa,
    toNat_leadingOne, hbias, hones, hzeros]
  generalize x.toBits.toNat / 2 ^ 52 % 2 ^ 11 = field at hbound ⊢
  by_cases hspecial : field = 2 ^ 11 - 1
  · rw [if_pos hspecial, if_pos hspecial]
    by_cases hfraction : x.toBits.toNat % 2 ^ 52 = 0
    · rw [if_pos hfraction, if_pos hfraction]
      exact .infinite hspecial hfraction
    · rw [if_neg hfraction, if_neg hfraction]
      exact .nan hspecial hfraction
  · rw [if_neg hspecial, if_neg hspecial]
    by_cases hleast : field = 0
    · rw [if_pos hleast, if_pos hleast]
      subst hleast
      by_cases hfraction : x.toBits.toNat % 2 ^ 52 = 0
      · rw [dif_pos hfraction, hfraction]
        exact .zero rfl rfl
      · rw [dif_neg hfraction]
        exact .least rfl (Nat.pos_of_ne_zero hfraction)
    · rw [if_neg hleast, if_neg hleast]
      have hplaces : 2 - ((2 ^ (11 - 1) : Nat) : Int) - (52 : Nat) + (field - 1 : Nat) =
          field - 1075 := by omega
      rw [hplaces]
      exact .full (by omega) (by omega) (by omega)

end Cartouche
