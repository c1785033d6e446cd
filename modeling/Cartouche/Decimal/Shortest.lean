import Cartouche.Decimal.Binary

/-!
The shortest decimal of a magnitude. A decimal reads back as a magnitude when it lies closer to it
than to the neighbours, an end of that interval counting when the significand is even. From the
exact decimal, digits are dropped as long as one of the two neighbours on the coarser grid still
reads back; of two that do, the nearer is taken.
-/
namespace Cartouche.Decimal

/-- The decimal `0.d₁d₂… * 10 ^ point`. -/
structure Digits where
  digits : List Char
  point : Int
deriving DecidableEq

def digitsOf (n : Nat) : List Char :=
  Nat.toDigits 10 n

def dropTrailing (c : Char) (text : List Char) : List Char :=
  (text.reverse.dropWhile (· == c)).reverse

/-- The decimal `n * 10 ^ exponent`, without zeros at its end. -/
def Digits.ofNat (n : Nat) (exponent : Int) : Digits :=
  ⟨dropTrailing '0' (digitsOf n), (digitsOf n).length + exponent⟩

namespace Binary

/-- Whether `n * 10 ^ scale` is among the decimals that round to the magnitude. -/
def readsBack (b : Binary) (n : Nat) : Bool :=
  let low := 4 * b.grains - (if b.narrowBelow then b.unit else 2 * b.unit)
  let high := 4 * b.grains + 2 * b.unit
  if b.significand % 2 = 0 then low ≤ 4 * n && 4 * n ≤ high else low < 4 * n && 4 * n < high

/-- The nearest of the two neighbours on the grid of `10 ^ dropped` grains, if it reads back. -/
def neighbour? (b : Binary) (tieUp : Bool) (dropped : Nat) : Option Nat :=
  let step := Nat.pow 10 dropped
  let below := b.grains / step
  let above := below + 1
  match b.readsBack (below * step), b.readsBack (above * step) with
  | false, false => none
  | true, false => some below
  | false, true => some above
  | true, true =>
    match compare (2 * (b.grains % step)) step with
    | .lt => some below
    | .gt => some above
    | .eq => some (if tieUp || below % 2 == 1 then above else below)

/-- The coarsest grid with a hit, looking from `dropped` downward; nothing dropped always hits. -/
def search (b : Binary) (tieUp : Bool) : Nat → Digits
  | 0 => .ofNat b.grains b.scale
  | dropped + 1 =>
    match b.neighbour? tieUp (dropped + 1) with
    | some n => .ofNat n (b.scale + (dropped + 1 : Nat))
    | none => b.search tieUp dropped

/-- The shortest decimal that reads back as a magnitude other than zero. -/
def shortest (b : Binary) (tieUp : Bool) : Digits :=
  b.search tieUp ((digitsOf b.grains).length - 1)

end Binary

end Cartouche.Decimal
