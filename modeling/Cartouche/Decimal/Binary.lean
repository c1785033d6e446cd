/-!
Binary numbers taken apart. A finite value is a sign and a magnitude `significand * 2 ^ exponent`;
every magnitude is also an exact decimal, and all texts of numbers are computed from that decimal
in natural arithmetic.
-/
namespace Cartouche.Decimal

/-- The finite magnitude `significand * 2 ^ exponent`. -/
structure Binary where
  significand : Nat
  exponent : Int
  /-- The gap to the next smaller magnitude is half the gap to the next larger one. -/
  narrowBelow : Bool
deriving DecidableEq

/-- What the bits of a number stand for. -/
inductive Decoded where
  | nan
  | infinite (negative : Bool)
  | finite (negative : Bool) (magnitude : Binary)
deriving DecidableEq

/-- Bits of an interchange format with the given field widths; the exponent that is all ones marks
the special values, and exponent zero marks the magnitudes without a leading one. -/
def Decoded.ofBits (fractionWidth exponentWidth bits : Nat) : Decoded :=
  let fraction := bits % Nat.pow 2 fractionWidth
  let field := bits / Nat.pow 2 fractionWidth % Nat.pow 2 exponentWidth
  let negative := bits / Nat.pow 2 (fractionWidth + exponentWidth) % 2 == 1
  let least : Int := 2 - (Nat.pow 2 (exponentWidth - 1) : Nat) - (fractionWidth : Nat)
  if field = Nat.pow 2 exponentWidth - 1 then
    if fraction = 0 then .infinite negative else .nan
  else if field = 0 then .finite negative ⟨fraction, least, false⟩
  else .finite negative
    ⟨Nat.pow 2 fractionWidth + fraction, least + (field - 1 : Nat), fraction == 0 && 1 < field⟩

/-- Number types whose values can be taken apart and read from decimals. -/
class Floating (α : Type) extends OfScientific α, Neg α where
  decode : α → Decoded
  nan : α

export Floating (decode)

instance : Floating Float where
  decode x := .ofBits 52 11 x.toBits.toNat
  nan := 0.0 / 0.0

instance : Floating Float32 where
  decode x := .ofBits 23 8 x.toBits.toNat
  nan := 0.0 / 0.0

namespace Binary

/-- What one step of the significand is worth on the decimal grid of `scale`. -/
def unit (b : Binary) : Nat :=
  if 0 ≤ b.exponent then Nat.pow 2 b.exponent.toNat else Nat.pow 5 (-b.exponent).toNat

/-- Powers of two below one are multiples of this power of ten. -/
def scale (b : Binary) : Int :=
  min b.exponent 0

/-- The magnitude is exactly `grains * 10 ^ scale`. -/
def grains (b : Binary) : Nat :=
  b.significand * b.unit

/-- The magnitude is a quotient of naturals. -/
def quotient (b : Binary) : Nat × Nat :=
  if 0 ≤ b.exponent then (b.significand * Nat.pow 2 b.exponent.toNat, 1)
  else (b.significand, Nat.pow 2 (-b.exponent).toNat)

/-- The magnitude with everything after the point dropped. -/
def truncated (b : Binary) : Nat :=
  b.quotient.1 / b.quotient.2

/-- The nearest natural, a half going up. -/
def rounded (b : Binary) : Nat :=
  (2 * b.quotient.1 + b.quotient.2) / (2 * b.quotient.2)

def isIntegral (b : Binary) : Bool :=
  b.quotient.1 % b.quotient.2 == 0

end Binary

namespace Decoded

def isFinite : Decoded → Bool
  | .finite _ _ => true
  | _ => false

/-- The value of a finite number without a fraction. -/
def toInt? : Decoded → Option Int
  | .finite negative b =>
    if b.isIntegral then some (if negative then -(b.truncated : Int) else b.truncated) else none
  | _ => none

/-- The nearest natural up to `top`; what lies outside goes to the closer end, and what is no
number to zero. -/
def clampRounded (top : Nat) : Decoded → Nat
  | .nan => 0
  | .infinite negative => if negative then 0 else top
  | .finite negative b => if negative then 0 else min top b.rounded

/-- The whole part up to `top`, with the same ends as `clampRounded`. -/
def clampTruncated (top : Nat) : Decoded → Nat
  | .nan => 0
  | .infinite negative => if negative then 0 else top
  | .finite negative b => if negative then 0 else min top b.truncated

/-- The number of another type that is nearest to the decoded value. -/
def convert {α : Type} [Floating α] : Decoded → α
  | .nan => Floating.nan
  | .infinite negative => sign negative (OfScientific.ofScientific 1 false 400)
  | .finite negative b => sign negative (OfScientific.ofScientific b.grains true (-b.scale).toNat)
where
  sign (negative : Bool) (x : α) : α := if negative then -x else x

end Decoded

end Cartouche.Decimal
