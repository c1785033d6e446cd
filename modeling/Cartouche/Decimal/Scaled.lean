import Cartouche.Decimal.Literal

/-!
Decimals computed in machine numbers: a significand of sixty-four bits, multiplied or divided by a
power of ten. The significand and each step are rounded, so the outcome may be a little off the
nearest number. Digits that the significand cannot hold count for their places only.
-/
namespace Cartouche.Decimal

def greatestSignificand : Nat := 18446744073709551615

/-- Takes digits into a significand until it cannot hold the next one; these digits come back. -/
def takeDigits (significand : Nat) : List Char → Nat × List Char
  | [] => (significand, [])
  | c :: rest =>
    let longer := 10 * significand + (c.toNat - '0'.toNat)
    if longer ≤ greatestSignificand then takeDigits longer rest else (significand, c :: rest)

theorem takeDigits_le {n : Nat} (h : n ≤ greatestSignificand) (text : List Char) :
    (takeDigits n text).1 ≤ greatestSignificand := by
  induction text generalizing n with
  | nil => exact h
  | cons c rest ih =>
    simp only [takeDigits]
    split
    · exact ih ‹_›
    · exact h

/-- The decimal `±significand * 10 ^ exponent`, its significand cut to sixty-four bits. -/
structure Scaled where
  negative : Bool
  significand : Nat
  exponent : Int
  fits : significand ≤ greatestSignificand

namespace Scaled

/-- The digits behind the point follow those in front of it, also where some of these are cut. -/
def ofParts (negative : Bool) (whole fraction : List Char) (exponent : Int) : Scaled where
  negative
  significand := (takeDigits (takeDigits 0 whole).1 fraction).1
  exponent :=
    let taken : Int := fraction.length - (takeDigits (takeDigits 0 whole).1 fraction).2.length
    exponent + (takeDigits 0 whole).2.length - taken
  fits := takeDigits_le (takeDigits_le (Nat.zero_le _) whole) fraction

def greatestPower : Nat := 308

def power (n : Nat) : Float :=
  OfScientific.ofScientific 1 false n

/-- Powers below the least that a number can be are divided out in two steps; after a third one
nothing would be left. -/
def magnitude (s : Scaled) : Float :=
  let x : Float := OfScientific.ofScientific s.significand false 0
  if 0 ≤ s.exponent then
    let up := s.exponent.toNat
    if up ≤ greatestPower then x * power up
    else if s.significand = 0 then x
    else (Decoded.infinite false).convert
  else
    let down := (-s.exponent).toNat
    if down ≤ greatestPower then x / power down
    else if down ≤ 2 * greatestPower then x / power greatestPower / power (down - greatestPower)
    else 0

def value (s : Scaled) : Float :=
  if s.negative then -s.magnitude else s.magnitude

end Scaled

end Cartouche.Decimal
