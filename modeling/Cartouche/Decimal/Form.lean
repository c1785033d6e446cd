import Cartouche.Decimal.Shortest

/-!
Written forms of numbers: where the point of a chosen decimal goes, and how many places are kept
when their number is fixed.
-/
namespace Cartouche.Decimal

/-- The decisions a written form of shortest decimals leaves open. -/
structure Form where
  /-- Leading digits of these powers of ten, both ends included, are written positionally, and
  all others with an exponent; without bounds every number is positional. -/
  positional : Option (Int × Int)
  /-- Integral values keep `.0`. -/
  pointZero : Bool
  /-- Zero keeps its sign. -/
  signedZero : Bool
  /-- Of two equally near shortest decimals the larger is written; otherwise the even one. -/
  tieUp : Bool
  nan : String
  infinite : Bool → String

/-- Digits with the point set among, before or after them. -/
def Digits.positional (d : Digits) (pointZero : Bool) : List Char :=
  if d.point ≤ 0 then '0' :: '.' :: List.replicate (-d.point).toNat '0' ++ d.digits
  else if d.digits.length ≤ d.point.toNat then
    d.digits ++ List.replicate (d.point.toNat - d.digits.length) '0' ++
      (if pointZero then ['.', '0'] else [])
  else d.digits.take d.point.toNat ++ '.' :: d.digits.drop d.point.toNat

/-- One digit, the others behind a point, and the power of ten with its sign. -/
def Digits.scientific (d : Digits) : List Char :=
  let power := d.point - 1
  let mantissa := match d.digits with
    | first :: second :: rest => first :: '.' :: second :: rest
    | digits => digits
  mantissa ++ 'e' :: (if power < 0 then '-' else '+') :: digitsOf power.natAbs

namespace Form

def digits (form : Form) (d : Digits) : List Char :=
  match form.positional with
  | none => d.positional form.pointZero
  | some (least, greatest) =>
    if least ≤ d.point - 1 ∧ d.point - 1 ≤ greatest then d.positional form.pointZero
    else d.scientific

def magnitude (form : Form) (b : Binary) : List Char :=
  if b.significand = 0 then (if form.pointZero then ['0', '.', '0'] else ['0'])
  else form.digits (b.shortest form.tieUp)

def decoded (form : Form) : Decoded → List Char
  | .nan => form.nan.toList
  | .infinite negative => (form.infinite negative).toList
  | .finite negative b =>
    if negative && (form.signedZero || b.significand != 0) then '-' :: form.magnitude b
    else form.magnitude b

def write {α : Type} [Floating α] (form : Form) (x : α) : String :=
  .ofList (form.decoded (decode x))

end Form

/-- Signs and words for values that no digits can write. -/
def infiniteWord (negative : Bool) : String :=
  if negative then "-inf" else "inf"

/-- The quotient to the nearest natural, a tie going to the even one. -/
def roundEven (num den : Nat) : Nat :=
  let q := num / den
  match compare (2 * (num % den)) den with
  | .lt => q
  | .gt => q + 1
  | .eq => if q % 2 = 0 then q else q + 1

/-- The magnitude in units of the last of `places`, rounded from its exact value. -/
def Binary.atPlaces (b : Binary) (places : Nat) : Nat :=
  let shift := b.scale + places
  if 0 ≤ shift then b.grains * Nat.pow 10 shift.toNat
  else roundEven b.grains (Nat.pow 10 (-shift).toNat)

/-- A natural with its last `places` digits behind a point. -/
def setPoint (n places : Nat) : List Char :=
  if places = 0 then digitsOf n
  else
    let digits := digitsOf n
    let padded := List.replicate (places + 1 - digits.length) '0' ++ digits
    padded.take (padded.length - places) ++ '.' :: padded.drop (padded.length - places)

/-- A fixed number of places; the sign stays also where all digits are zero. -/
def Decoded.fixed (places : Nat) : Decoded → List Char
  | .nan => "NaN".toList
  | .infinite negative => (infiniteWord negative).toList
  | .finite negative b =>
    let text := setPoint (b.atPlaces places) places
    if negative then '-' :: text else text

def fixed {α : Type} [Floating α] (places : Nat) (x : α) : String :=
  .ofList ((decode x).fixed places)

end Cartouche.Decimal
